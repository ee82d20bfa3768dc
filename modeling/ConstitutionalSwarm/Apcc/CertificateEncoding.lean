import ConstitutionalSwarm.Apcc.CodecAcceptance

namespace Apcc

open List

mutual

def isShaped (depth : Nat) : Json → Bool
  | .str _ => depth ≤ maxDepth
  | .obj fs => depth ≤ maxDepth && areShapedFields (depth + 1) fs
  | .arr vs => depth ≤ maxDepth && areShapedElems (depth + 1) vs
  | .null | .bool _ | .int _ => false

def areShapedElems (depth : Nat) : List Json → Bool
  | [] => true
  | v :: vs => isShaped depth v && areShapedElems depth vs

def areShapedFields (depth : Nat) : Fields → Bool
  | [] => true
  | (k, v) :: fs => isAscii k && isShaped depth v && areShapedFields depth fs

end

theorem checkKeys_of_mem_iff (h : ∀ k, k ∈ actual ↔ k ∈ exp)
    : checkKeys actual exp = .ok () := by
  have hextra : actual.filter (!exp.contains ·) = [] := by
    simp only [filter_eq_nil_iff, contains_eq_mem, Bool.not_eq_true',
      decide_eq_false_iff_not, not_not]
    exact fun k hk => (h k).mp hk
  have hmiss : exp.any (!actual.contains ·) = false := by
    simp only [any_eq_false, contains_eq_mem, Bool.not_eq_true', decide_eq_false_iff_not, not_not]
    exact fun k hk => (h k).mpr hk
  simp only [checkKeys, hextra, hmiss]
  rfl

theorem checkSchema_object_of (hkeys : checkKeys (fs.map Prod.fst) (schema.map Prod.fst) = .ok ())
    (hflds : checkFields fs schema = .ok ())
    : checkSchema (.obj fs) (.object schema) = .ok () := by
  rw [checkSchema, fieldsOf, ok_bind, hkeys, ok_bind, hflds]

theorem checkSchema_text (s : String) : checkSchema (.str s) .text = .ok () := by
  rw [checkSchema]
  rfl

variable {v : Statement} {ps : List PredecessorRef} {c : CommitCertificate} {value name : String}
  {u : Unit} {n : Nat}

theorem checkSchema_statement {keys} (h : ∀ k, k ∈ v.entries.map Prod.fst ↔ k ∈ keys)
    : checkSchema v.toObject (.strings keys) = .ok () := by
  have hall : (v.toFields.all fun f => f.2.str?.isSome) := by
    simp [Statement.toFields, Json.str?]
  simp only [Statement.toObject, checkSchema, fieldsOf, ok_bind, Statement.map_fst_toFields,
    checkKeys_of_mem_iff h, hall, ensure_true]

theorem checkSchema_predecessors (h : ps.length ≤ maxPredecessors)
    : checkSchema (.arr (ps.map PredecessorRef.toObject)) (.list (.strings PredecessorRef.keys)) =
      .ok () := by
  rw [checkSchema, bind_eq_ok, exists_unit, raiseIf_eq_ok, Except.forM_eq_ok, length_map]
  refine ⟨decide_eq_false (not_lt.mpr h), fun v hv => ?_⟩
  obtain ⟨_, -, rfl⟩ := mem_map.mp hv
  rfl

theorem checkSchema_toObject (hkeys : c.evidence.ExactKeys)
    (hlen : c.bindings.predecessors.length ≤ maxPredecessors)
    : checkSchema c.toObject certificateSchema = .ok () := by
  have hprod := checkSchema_statement hkeys.1
  have hpol := checkSchema_statement hkeys.2.1
  have hauth := checkSchema_statement hkeys.2.2
  have hpreds := checkSchema_predecessors hlen
  have hevid : checkSchema c.evidence.toObject (.object
      [("producer_statement", .strings CertificateEvidence.producerKeys),
        ("producer_statement_digest", .text),
        ("policy_statement", .strings CertificateEvidence.policyKeys),
        ("policy_statement_digest", .text),
        ("authority_statement", .strings CertificateEvidence.authorityKeys),
        ("authority_statement_digest", .text)]) = .ok () := by
    refine checkSchema_object_of rfl ?_
    simp [checkFields, checkSchema_text, hprod, hpol, hauth]
  have hbind : checkSchema c.bindings.toObject (.object
      [("expected_node_version", .text), ("committed_node_version", .text),
        ("predecessor_root", .text), ("predecessors", .list (.strings PredecessorRef.keys))])
        = .ok () := by
    refine checkSchema_object_of rfl ?_
    simp [checkFields, checkSchema_text, hpreds]
  refine checkSchema_object_of rfl ?_
  have hflat : checkSchema c.header.toObject (.strings CertificateHeader.keys) = .ok () ∧
      checkSchema c.subject.toObject (.strings CertificateSubject.keys) = .ok () ∧
      checkSchema c.context.toObject (.strings CertificateContext.keys) = .ok () ∧
      checkSchema c.decision.toObject (.strings CertificateDecision.keys) = .ok () ∧
      checkSchema c.signatures.toObject (.object
        [("producer", signatureSchema), ("policy_authority", signatureSchema),
          ("authority_registry", signatureSchema)]) = .ok () := ⟨rfl, rfl, rfl, rfl, rfl⟩
  simp [checkFields, hevid, hbind, hflat]

def isBytes (length : Nat) (value : String) : Bool :=
  (Base64.decode value).any (·.length = length)

@[simp]
theorem decodeB64u_eq_ok
    : (decodeB64u value (some n)).map (fun _ => ()) = .ok u ↔ isBytes n value := by
  unfold decodeB64u isBytes
  cases Base64.decode value with
  | none => simp [fail, Except.map]
  | some dec =>
    by_cases h : dec.length = n <;> simp [fail, Except.map, h]

theorem isBytes_encode {value} (h : value.length = n)
    : isBytes n (Base64.encode value) := by
  simp [isBytes, h]

theorem length_of_isBytes (h : isBytes n value)
    : value.length = (4 * n + 2) / 3 := by
  unfold isBytes at h
  cases hdec : Base64.decode value with
  | none => simp [hdec] at h
  | some dec =>
    have hlen : dec.length = n := by simpa [hdec] using h
    rw [← Base64.encode_of_decode hdec, length_encode, hlen]

theorem isPlain_of_isBytes (h : isBytes n value)
    : isPlain value := by
  unfold isBytes at h
  cases hdec : Base64.decode value with
  | none => simp [hdec] at h
  | some dec =>
    rw [← Base64.encode_of_decode hdec]
    exact isPlain_encode dec

theorem isPlain_of_isDecimal (h : isDecimal value)
    : isPlain value := by
  simp only [isDecimal, Bool.and_eq_true] at h
  obtain ⟨⟨hcanon, -⟩, -⟩ := h
  unfold PyInt.isCanonical at hcanon
  unfold isPlain
  split at hcanon
  . simp at hcanon
  . next heq =>
    rw [heq]
    decide
  . next c rest _ heq =>
    rw [Bool.and_eq_true, all_eq_true] at hcanon
    rw [heq, all_eq_true]
    intro c hc
    exact isPlainChar_of_isAlphanum (by simp [Char.isAlphanum, hcanon.2 c hc])

theorem scalarsFields_eq_ok
    : scalarsFields fs = .ok u ↔ ∀ f ∈ fs, scalars f.1 f.2 = .ok () := by
  induction fs with
  | nil => simp [scalarsFields]
  | cons f fs ih => simp [scalarsFields, bind_eq_ok, exists_unit, ih]

theorem scalarsElems_eq_ok
    : scalarsElems name vs = .ok u ↔ ∀ v ∈ vs, scalars name v = .ok () := by
  induction vs with
  | nil => simp [scalarsElems]
  | cons v vs ih => simp [scalarsElems, bind_eq_ok, exists_unit, ih]

attribute [simp] scalars scalarsFields checkScalar decimalNames digestNames idNames

@[mk_iff]
structure CertificateHeader.Encodable (v : CertificateHeader) : Prop where
  authorityStoreId : isIdentifier v.authorityStoreId = true
  commitAuthorityKeyId : isIdentifier v.commitAuthorityKeyId = true
  certificateSequence : isDecimal v.certificateSequence = true

theorem CertificateHeader.scalars_eq_ok {v : CertificateHeader}
    : scalars name v.toObject = .ok () ↔ v.Encodable := by
  simp [toObject, bind_eq_ok, encodable_iff]
  tauto

@[mk_iff]
structure CertificateSubject.Encodable (v : CertificateSubject) : Prop where
  workflowId : isIdentifier v.workflowId = true
  nodeId : isIdentifier v.nodeId = true
  attemptId : isIdentifier v.attemptId = true
  agentId : isIdentifier v.agentId = true
  actorAuthority : isAuthority v.actorAuthority = true
  inputDigest : isBytes 32 v.inputDigest = true
  outputDigest : isBytes 32 v.outputDigest = true

theorem CertificateSubject.scalars_eq_ok {v : CertificateSubject}
    : scalars name v.toObject = .ok () ↔ v.Encodable := by
  simp [toObject, bind_eq_ok, encodable_iff]
  tauto

@[mk_iff]
structure CertificateContext.Encodable (v : CertificateContext) : Prop where
  policyId : isIdentifier v.policyId = true
  policyVersion : isDecimal v.policyVersion = true
  policyEpoch : isDecimal v.policyEpoch = true
  authorityRoot : isBytes 32 v.authorityRoot = true
  authorityEpoch : isDecimal v.authorityEpoch = true
  agentRevocationGeneration : isDecimal v.agentRevocationGeneration = true
  workflowRevocationGeneration : isDecimal v.workflowRevocationGeneration = true
  workflowEpoch : isDecimal v.workflowEpoch = true

theorem CertificateContext.scalars_eq_ok {v : CertificateContext}
    : scalars name v.toObject = .ok () ↔ v.Encodable := by
  simp [toObject, bind_eq_ok, encodable_iff]
  tauto

@[mk_iff]
structure CertificateDecision.Encodable (v : CertificateDecision) : Prop where
  commitId : isIdentifier v.commitId = true
  nonce : isBytes 16 v.nonce = true
  committedAtMs : isDecimal v.committedAtMs = true

theorem CertificateDecision.scalars_eq_ok {v : CertificateDecision}
    : scalars name v.toObject = .ok () ↔ v.Encodable := by
  simp [toObject, bind_eq_ok, encodable_iff]
  tauto

@[mk_iff]
structure PredecessorRef.Encodable (v : PredecessorRef) : Prop where
  workflowId : isIdentifier v.workflowId = true
  nodeId : isIdentifier v.nodeId = true
  committedNodeVersion : isDecimal v.committedNodeVersion = true
  commitId : isIdentifier v.commitId = true
  certificateDigest : isBytes 32 v.certificateDigest = true
  outputDigest : isBytes 32 v.outputDigest = true

theorem PredecessorRef.scalars_eq_ok {v : PredecessorRef}
    : scalars name v.toObject = .ok () ↔ v.Encodable := by
  simp [toObject, bind_eq_ok, encodable_iff]
  tauto

@[mk_iff]
structure Signature.Encodable (v : Signature) : Prop where
  keyId : isIdentifier v.keyId = true
  signatureB64u : isBytes 64 v.signatureB64u = true

theorem Signature.scalars_eq_ok {v : Signature}
    : scalars name v.toObject = .ok () ↔ v.Encodable := by
  simp [toObject, bind_eq_ok, encodable_iff]

@[mk_iff]
structure CertificateBindings.Encodable (v : CertificateBindings) : Prop where
  expectedNodeVersion : isDecimal v.expectedNodeVersion = true
  committedNodeVersion : isDecimal v.committedNodeVersion = true
  predecessorRoot : isBytes 32 v.predecessorRoot = true
  predecessors : ∀ p ∈ v.predecessors, p.Encodable

theorem CertificateBindings.scalars_eq_ok {v : CertificateBindings}
    : scalars name v.toObject = .ok () ↔ v.Encodable := by
  simp [toObject, bind_eq_ok, scalarsElems_eq_ok, PredecessorRef.scalars_eq_ok, encodable_iff]
  tauto

@[mk_iff]
structure CertificateSignatures.Encodable (v : CertificateSignatures) : Prop where
  producer : v.producer.Encodable
  policyAuthority : v.policyAuthority.Encodable
  authorityRegistry : v.authorityRegistry.Encodable

theorem CertificateSignatures.scalars_eq_ok {v : CertificateSignatures}
    : scalars name v.toObject = .ok () ↔ v.Encodable := by
  simp only [toObject, scalars, scalarsFields, bind_eq_ok, exists_unit, Signature.scalars_eq_ok,
    and_true, encodable_iff]
  tauto

def Statement.Encodable (v : Statement) : Prop :=
  ∀ e ∈ v.entries, checkScalar e.1 e.2 = .ok ()

theorem Statement.scalars_eq_ok
    : scalars name v.toObject = .ok () ↔ v.Encodable := by
  simp only [toObject, scalars, scalarsFields_eq_ok, toFields, forall_mem_map, Encodable]

@[mk_iff]
structure CertificateEvidence.Encodable (v : CertificateEvidence) : Prop where
  producerStatement : v.producerStatement.Encodable
  producerStatementDigest : isBytes 32 v.producerStatementDigest = true
  policyStatement : v.policyStatement.Encodable
  policyStatementDigest : isBytes 32 v.policyStatementDigest = true
  authorityStatement : v.authorityStatement.Encodable
  authorityStatementDigest : isBytes 32 v.authorityStatementDigest = true

theorem CertificateEvidence.scalars_eq_ok {v : CertificateEvidence}
    : scalars name v.toObject = .ok () ↔ v.Encodable := by
  simp [toObject, bind_eq_ok, exists_unit, Statement.scalars_eq_ok, encodable_iff]
  tauto

@[mk_iff]
structure CommitCertificate.Encodable (v : CommitCertificate) : Prop where
  header : v.header.Encodable
  subject : v.subject.Encodable
  context : v.context.Encodable
  evidence : v.evidence.Encodable
  decision : v.decision.Encodable
  bindings : v.bindings.Encodable
  signatures : v.signatures.Encodable

theorem CommitCertificate.scalars_eq_ok {v : CommitCertificate}
    : scalars name v.toObject = .ok () ↔ v.Encodable := by
  simp only [toObject, scalars, scalarsFields, bind_eq_ok, exists_unit,
    CertificateHeader.scalars_eq_ok, CertificateSubject.scalars_eq_ok,
    CertificateContext.scalars_eq_ok, CertificateEvidence.scalars_eq_ok,
    CertificateDecision.scalars_eq_ok, CertificateBindings.scalars_eq_ok,
    CertificateSignatures.scalars_eq_ok, and_true, encodable_iff]
  tauto

theorem areShapedFields_toFields {keys : List String}
    (h : ∀ k, k ∈ v.entries.map Prod.fst ↔ k ∈ keys) (hkeys : ∀ k ∈ keys, isAscii k)
    {d : Nat} (hd : d ≤ maxDepth) : areShapedFields d v.toFields := by
  have hentries : ∀ e ∈ v.entries, isAscii e.1 = true := fun e he =>
    hkeys _ ((h _).mp (mem_map_of_mem he))
  unfold Statement.toFields
  generalize v.entries = entries at hentries
  induction entries with
  | nil => rfl
  | cons e entries ih =>
    obtain ⟨he, hentries⟩ := forall_mem_cons.mp hentries
    simp [areShapedFields, isShaped, he, hd, ih hentries]

theorem areShapedElems_predecessors (h : depth < maxDepth) (ps : List PredecessorRef)
    : areShapedElems depth (ps.map PredecessorRef.toObject) := by
  induction ps with
  | nil => rfl
  | cons p ps ih =>
    have hdepth : decide (depth + 1 ≤ maxDepth) = true := decide_eq_true h
    have hfirst : decide (depth ≤ maxDepth) = true := decide_eq_true h.le
    rw [map_cons, areShapedElems, ih, PredecessorRef.toObject]
    simp only [isShaped, areShapedFields, hdepth, hfirst]
    decide

theorem isShaped_toObject (hkeys : c.evidence.ExactKeys)
    : isShaped 1 c.toObject := by
  have hprod := areShapedFields_toFields hkeys.1 (by decide) (show 4 ≤ maxDepth by decide)
  have hpol := areShapedFields_toFields hkeys.2.1 (by decide) (show 4 ≤ maxDepth by decide)
  have hauth := areShapedFields_toFields hkeys.2.2 (by decide) (show 4 ≤ maxDepth by decide)
  have hpreds := areShapedElems_predecessors (show 4 < maxDepth by decide)
    c.bindings.predecessors
  have hevid : isShaped 2 c.evidence.toObject := by
    simp only [CertificateEvidence.toObject, Statement.toObject, isShaped, areShapedFields,
      hprod, hpol, hauth]
    decide
  have hbind : isShaped 2 c.bindings.toObject := by
    simp only [CertificateBindings.toObject, isShaped, areShapedFields, hpreds]
    decide
  have hflat : isShaped 2 c.header.toObject ∧ isShaped 2 c.subject.toObject ∧
      isShaped 2 c.context.toObject ∧ isShaped 2 c.decision.toObject ∧
      isShaped 2 c.signatures.toObject = true := ⟨rfl, rfl, rfl, rfl, rfl⟩
  simp only [CommitCertificate.toObject, isShaped, areShapedFields, hevid, hbind, hflat]
  decide

theorem CommitCertificate.encodable_withPredecessors (h : ps.Perm c.bindings.predecessors)
    : (c.withPredecessors ps).Encodable ↔ c.Encodable := by
  simp only [encodable_iff, CertificateBindings.encodable_iff, withPredecessors, h.mem_iff]

theorem PredecessorRef.toObject_injective : Function.Injective PredecessorRef.toObject := by
  rintro ⟨⟩ ⟨⟩ h
  simpa [toObject, and_comm, and_assoc, and_left_comm] using h

theorem length_le_of_checkSchema (h : checkSchema c.toObject certificateSchema = .ok ())
    : c.bindings.predecessors.length ≤ maxPredecessors := by
  have hflds := checkSchema_object h
  simp [checkFields, bind_eq_ok, exists_unit] at hflds
  have hbind := checkSchema_object hflds.2.2.2.2.2.1
  simp [checkFields, checkSchema_text] at hbind
  simp only [checkSchema, bind_eq_ok, exists_unit, raiseIf_eq_ok, length_map,
    decide_eq_false_iff_not, not_lt] at hbind
  exact hbind.1.1

variable [Platform]

theorem pairwise_of_sortByCanonical {α : Type} {toObject : α → Json} {items sorted}
    (h : sortByCanonical toObject items = .ok sorted)
    : ∃ members, (sorted.map toObject).mapM canonical = .ok members ∧
      members.Pairwise bytesLe := by
  simp only [sortByCanonical, bind_eq_ok, pure_inj] at h
  obtain ⟨keyed, hkeyed, rfl⟩ := h
  have hmem : ∀ e ∈ keyed, canonical (toObject e.2) = .ok e.1 := by
    rw [Except.mapM_eq_ok] at hkeyed
    obtain ⟨-, rfl⟩ := hkeyed
    intro e he
    obtain ⟨_, -, hitem⟩ := mem_filterMap.mp he
    simp only [Except.toOption_eq_some, bind_eq_ok, pure_inj] at hitem
    obtain ⟨_, hraw, rfl⟩ := hitem
    exact hraw
  have hsort : (keyed.insertionSort fun a b => bytesLe a.1 b.1).Pairwise
      fun a b => bytesLe a.1 b.1 := by
    have htotal : Std.Total fun a b : Bytes × α => bytesLe a.1 b.1 := ⟨fun a b => le_total _ _⟩
    have htrans : IsTrans (Bytes × α) fun a b => bytesLe a.1 b.1 := ⟨fun a b c => le_trans⟩
    exact pairwise_insertionSort _ _
  refine ⟨(keyed.insertionSort fun a b => bytesLe a.1 b.1).map Prod.fst, ?_, pairwise_map.mpr hsort⟩
  rw [map_map, mapM_map]
  exact Except.mapM_of_forall fun e he => hmem e ((mem_insertionSort _).mp he)

theorem nodup_members
    (h : (ps.map PredecessorRef.toObject).mapM canonical = .ok members) (hps : ps.Nodup)
    : members.Nodup := by
  rw [Except.mapM_eq_ok, filterMap_map] at h
  obtain ⟨-, rfl⟩ := h
  refine hps.filterMap fun p q raw hp hq => ?_
  simp only [Function.comp, Option.mem_def, Except.toOption_eq_some] at hp hq
  exact PredecessorRef.toObject_injective
    (canonical_inj p.canonical_toObject q.canonical_toObject hp hq)

theorem checkPredecessors_eq_ok (hflds : c.toObject = .obj fields)
    (hmems : (c.bindings.predecessors.map PredecessorRef.toObject).mapM canonical = .ok members)
    (hsort : members.Pairwise bytesLe)
    : checkPredecessors fields = .ok () ↔ (c.bindings.predecessors.map (·.nodeId)).Nodup ∧
      (c.bindings.predecessors.map (·.certificateDigest)).Nodup := by
  obtain rfl := Json.obj.inj hflds
  generalize hps : c.bindings.predecessors = ps at hmems
  have hread {key : String} {get : PredecessorRef → String}
      (hget : ∀ p, object (PredecessorRef.toObject p) >>= (string · key) = .ok (get p))
      : (ps.map PredecessorRef.toObject).mapM (fun item => do string (← object item) key)
        = .ok (ps.map get) := by
    rw [mapM_map]
    exact Except.mapM_of_forall fun p _ => hget p
  have hnodes := @hread "node_id" (·.nodeId) fun p => by simp [PredecessorRef.toObject]
  have hdigs := @hread "certificate_digest" (·.certificateDigest) fun p => by
    simp [PredecessorRef.toObject]
  have hcheck : checkPredecessors
      [("bindings", c.bindings.toObject), ("context", c.context.toObject),
        ("decision", c.decision.toObject), ("evidence", c.evidence.toObject),
        ("header", c.header.toObject), ("signatures", c.signatures.toObject),
        ("subject", c.subject.toObject)]
      = ensure (members.Nodup && (ps.map (·.nodeId)).Nodup && (ps.map (·.certificateDigest)).Nodup)
        (.codecError .duplicateSetMember) := by
    simp [checkPredecessors, CertificateBindings.toObject, hps, hmems, hsort, hnodes, hdigs,
      -mapM_map]
  rw [hcheck, ensure_eq_ok]
  simp only [Bool.and_eq_true, decide_eq_true_eq, and_assoc]
  exact ⟨fun h => h.2, fun h => ⟨nodup_members hmems (List.Nodup.of_map _ h.2), h⟩⟩

theorem encodeCertificate_eq_ok {raw : Bytes}
    : encodeCertificate c = .ok raw ↔
      ∃ ps, sortByCanonical PredecessorRef.toObject c.bindings.predecessors = .ok ps ∧
        tree 1 (c.withPredecessors ps).toObject = .ok () ∧ c.evidence.ExactKeys ∧ c.Encodable ∧
        c.bindings.predecessors.length ≤ maxPredecessors ∧
        (c.bindings.predecessors.map (·.nodeId)).Nodup ∧
        (c.bindings.predecessors.map (·.certificateDigest)).Nodup ∧
        raw = ((c.withPredecessors ps).toObject.dumps false).encodeUTF8 ∧
        raw.length ≤ maxPayloadBytes := by
  simp only [encodeCertificate, bind_eq_ok, exists_unit, pure_inj]
  refine exists_congr fun ps => and_congr_right fun hps => ?_
  have hperm := perm_of_sortByCanonical hps
  obtain ⟨_, hmems, hsort⟩ := pairwise_of_sortByCanonical hps
  have hcanon := CommitCertificate.canonical_toObject (c.withPredecessors ps)
  have hnodes := (hperm.map (·.nodeId)).nodup_iff
  have hdigs := (hperm.map (·.certificateDigest)).nodup_iff
  constructor
  . rintro ⟨_, henc, fields, hdec, hchecked, rfl⟩
    obtain ⟨htree, hraw⟩ := (canonical_eq_ok hcanon).mp henc
    obtain ⟨hobject, hschema, hscalars⟩ := decode_canonical hcanon henc hdec
    obtain ⟨hnodup, hnodup'⟩ := (checkPredecessors_eq_ok hobject hmems hsort).mp hchecked
    have hlen : ps.length ≤ maxPredecessors := length_le_of_checkSchema hschema
    exact ⟨htree, exactKeys_of_checkSchema (c := c.withPredecessors ps) hschema,
      (CommitCertificate.encodable_withPredecessors hperm).mp
        (CommitCertificate.scalars_eq_ok.mp hscalars),
      hperm.length_eq ▸ hlen, hnodes.mp hnodup, hdigs.mp hnodup', hraw,
      length_le_of_decode hdec⟩
  . rintro ⟨htree, hkeys, hencodable, hcount, hnodup, hnodup', hraw, hlen⟩
    have henc := (canonical_eq_ok hcanon).mpr ⟨htree, hraw⟩
    have hschema : checkSchema (c.withPredecessors ps).toObject certificateSchema = .ok () :=
      checkSchema_toObject hkeys (hperm.length_eq.le.trans hcount)
    have hscalars : scalars "" (c.withPredecessors ps).toObject = .ok () :=
      CommitCertificate.scalars_eq_ok.mpr
        ((CommitCertificate.encodable_withPredecessors hperm).mpr hencodable)
    exact ⟨_, henc, _, (decode_eq_ok hcanon henc).mpr ⟨rfl, hlen, hschema, hscalars⟩,
      (checkPredecessors_eq_ok (c := c.withPredecessors ps) rfl hmems hsort).mpr
        ⟨hnodes.mpr hnodup, hdigs.mpr hnodup'⟩, rfl⟩

end Apcc

namespace Apcc.Sample

open List

mutual

theorem tree_of_isShaped : ∀ {v : Json} {d : Nat}, isShaped d v = true → tree d v = .ok ()
  | .null, _, h | .bool _, _, h | .int _, _, h => by simp [isShaped] at h
  | .str _, _, h => by
    have hd := of_decide_eq_true h
    simp [tree, bind_eq_ok, hd, Platform.isNFC]
  | .arr _, _, h => by
    simp only [isShaped, Bool.and_eq_true, decide_eq_true_eq] at h
    simp [tree, bind_eq_ok, h.1, treeElems_of_areShaped h.2]
  | .obj _, _, h => by
    simp only [isShaped, Bool.and_eq_true, decide_eq_true_eq] at h
    simp [tree, bind_eq_ok, h.1, treeFields_of_areShaped h.2]

theorem treeElems_of_areShaped
    : ∀ {vs : List Json} {d : Nat}, areShapedElems d vs = true → treeElems d vs = .ok ()
  | [], _, _ => rfl
  | _ :: _, _, h => by
    simp only [areShapedElems, Bool.and_eq_true] at h
    rw [treeElems, tree_of_isShaped h.1, ok_bind, treeElems_of_areShaped h.2]

theorem treeFields_of_areShaped
    : ∀ {fs : Fields} {d : Nat}, areShapedFields d fs = true → treeFields d fs = .ok ()
  | [], _, _ => rfl
  | (_, _) :: _, _, h => by
    simp only [areShapedFields, Bool.and_eq_true] at h
    simp [treeFields, h.1.1, tree_of_isShaped h.1.2, treeFields_of_areShaped h.2, raiseIf]

end

theorem canonical_of_isShaped (hv : v.Canonical) (h : isShaped 1 v)
    : canonical v = .ok (v.dumps false).encodeUTF8 :=
  (canonical_eq_ok hv).mpr ⟨tree_of_isShaped h, rfl⟩

def zeroDigest : String :=
  sha256Digest []

def emptyRoot : String :=
  sha256Digest ((Json.arr []).dumps false).encodeUTF8

structure Draft where
  nodeId : String
  attemptId : String := "attempt"
  commitId : String
  nonce : String
  expected : String := "0"
  committed : String := "1"
  nodeId_valid : isIdentifier nodeId = true
  attemptId_valid : isIdentifier attemptId = true ∧ attemptId.length = 7 := by decide
  commitId_valid : isIdentifier commitId = true
  nonce_valid : isBytes 16 nonce = true
  versions : CertificateBindings.advances expected committed := by decide
  versions_valid : (isDecimal expected = true ∧ expected.length = 1) ∧
    isDecimal committed = true ∧ committed.length = 1 := by decide

namespace Draft

variable (d : Draft)

def subject : CertificateSubject :=
  ⟨"workflow", d.nodeId, d.attemptId, "agent", "authority:team:agent", zeroDigest, zeroDigest⟩

def context : CertificateContext :=
  ⟨"policy", "1", "1", zeroDigest, "1", "0", "0", "1"⟩

def bindings : CertificateBindings where
  expectedNodeVersion := d.expected
  committedNodeVersion := d.committed
  predecessorRoot := emptyRoot
  predecessors := []
  valid := d.versions

def producerStatement : Statement where
  entries :=
    [("actor_authority", "authority:team:agent"), ("agent_id", "agent"),
      ("attempt_id", d.attemptId), ("commit_id", d.commitId),
      ("expected_node_version", d.expected), ("expires_at_ms", "1"),
      ("input_digest", zeroDigest), ("issued_at_ms", "0"), ("node_id", d.nodeId),
      ("nonce", d.nonce), ("output_digest", zeroDigest), ("predecessor_root", emptyRoot),
      ("producer_key_id", "producer"), ("protocol_version", "APCC-1.0-draft"),
      ("statement_type", "apcc.producer-statement"), ("workflow_id", "workflow")]
  sorted := Json.sortedKeys_iff.mpr (by simp only [List.map_cons, List.map_nil]; decide)

def statementDigest (statement : Statement) : String :=
  sha256Digest (statement.toObject.dumps false).encodeUTF8

def policyStatement : Statement where
  entries :=
    [("attempt_id", d.attemptId), ("decision", "allow"), ("expires_at_ms", "1"),
      ("issued_at_ms", "0"), ("node_id", d.nodeId), ("policy_epoch", "1"), ("policy_id", "policy"),
      ("policy_key_id", "policy"), ("policy_version", "1"),
      ("proposal_digest", statementDigest d.producerStatement),
      ("protocol_version", "APCC-1.0-draft"), ("statement_type", "apcc.policy-statement"),
      ("workflow_id", "workflow")]
  sorted := Json.sortedKeys_iff.mpr (by simp only [List.map_cons, List.map_nil]; decide)

def authorityStatement : Statement where
  entries :=
    [("actor_authority", "authority:team:agent"), ("agent_id", "agent"),
      ("agent_revocation_generation", "0"), ("attempt_id", d.attemptId), ("authority_epoch", "1"),
      ("authority_key_id", "registry"), ("authority_root", zeroDigest), ("expires_at_ms", "1"),
      ("issued_at_ms", "0"), ("node_id", d.nodeId), ("producer_key_id", "producer"),
      ("proposal_digest", statementDigest d.producerStatement),
      ("protocol_version", "APCC-1.0-draft"), ("statement_type", "apcc.authority-statement"),
      ("workflow_epoch", "1"), ("workflow_id", "workflow"),
      ("workflow_revocation_generation", "0")]
  sorted := Json.sortedKeys_iff.mpr (by simp only [List.map_cons, List.map_nil]; decide)

def evidence : CertificateEvidence where
  producerStatement := d.producerStatement
  producerStatementDigest := statementDigest d.producerStatement
  policyStatement := d.policyStatement
  policyStatementDigest := statementDigest d.policyStatement
  authorityStatement := d.authorityStatement
  authorityStatementDigest := statementDigest d.authorityStatement
  literals := ⟨rfl, rfl, rfl, rfl, rfl, rfl, rfl⟩

def signature (keyId : String) : Signature :=
  ⟨"Ed25519", keyId, Base64.encode (List.replicate 64 0), rfl⟩

def signatures : CertificateSignatures :=
  ⟨signature "producer", signature "policy", signature "registry"⟩

def certificate (sequence reason : String) : CommitCertificate where
  header :=
    ⟨"APCC-1.0-draft", "apcc.commit-certificate", "APCC-CJ1", "SHA-256", "Ed25519", "store",
      "commit", sequence, CertificateHeader.supported_v1⟩
  subject := d.subject
  context := context
  evidence := d.evidence
  decision := ⟨"committed", reason, d.commitId, d.nonce, "0", rfl⟩
  bindings := d.bindings
  signatures := signatures

theorem exactKeys : d.evidence.ExactKeys := by
  have hprod : (d.evidence.producerStatement.entries.map Prod.fst).Perm
      CertificateEvidence.producerKeys := by
    simp only [evidence, producerStatement, map_cons, map_nil]
    decide
  have hpol : (d.evidence.policyStatement.entries.map Prod.fst).Perm
      CertificateEvidence.policyKeys := by
    simp only [evidence, policyStatement, map_cons, map_nil]
    decide
  have hauth : (d.evidence.authorityStatement.entries.map Prod.fst).Perm
      CertificateEvidence.authorityKeys := by
    simp only [evidence, authorityStatement, map_cons, map_nil]
    decide
  exact ⟨fun _ => hprod.mem_iff, fun _ => hpol.mem_iff, fun _ => hauth.mem_iff⟩

theorem isBytes_sha256Digest (value : Bytes) : isBytes 32 (sha256Digest value) = true :=
  isBytes_encode (Platform.length_sha256 value)

theorem decimals : isDecimal "0" ∧ isDecimal "1" := by decide

theorem identifiers
    : isIdentifier "agent" ∧ isIdentifier "commit" ∧ isIdentifier "policy" ∧
      isIdentifier "producer" ∧ isIdentifier "registry" ∧
      isIdentifier "store" ∧ isIdentifier "workflow" := by decide

theorem authority_valid : isAuthority "authority:team:agent" := by decide

theorem encodable_evidence : d.evidence.Encodable := by
  refine ⟨?_, isBytes_sha256Digest _, ?_, isBytes_sha256Digest _, ?_, isBytes_sha256Digest _⟩
  all_goals
    simp [Statement.Encodable, evidence, producerStatement, policyStatement, authorityStatement,
      decimals, identifiers, authority_valid, zeroDigest, statementDigest, isBytes_sha256Digest,
      emptyRoot, d.nodeId_valid, d.attemptId_valid, d.commitId_valid, d.nonce_valid,
      d.versions_valid]

theorem canonicalStatement_of_keys {statement : Statement} {keys : List String}
    (h : ∀ k, k ∈ statement.entries.map Prod.fst ↔ k ∈ keys) (hkeys : ∀ k ∈ keys, isAscii k)
    : canonicalStatement statement = .ok (statement.toObject.dumps false).encodeUTF8 := by
  refine canonical_of_isShaped (Statement.canonical_toObject statement) ?_
  rw [Statement.toObject, isShaped, areShapedFields_toFields h hkeys (by decide)]
  decide

theorem canonicalStatement_evidence
    : canonicalStatement d.evidence.producerStatement
          = .ok (d.producerStatement.toObject.dumps false).encodeUTF8 ∧
      canonicalStatement d.evidence.policyStatement
          = .ok (d.policyStatement.toObject.dumps false).encodeUTF8 ∧
      canonicalStatement d.evidence.authorityStatement
          = .ok (d.authorityStatement.toObject.dumps false).encodeUTF8 := by
  obtain ⟨hprod, hpol, hauth⟩ := d.exactKeys
  exact ⟨canonicalStatement_of_keys hprod (by decide),
    canonicalStatement_of_keys hpol (by decide),
    canonicalStatement_of_keys hauth (by decide)⟩

theorem length_digest (value : Bytes) : (sha256Digest value).length = 43 := by
  rw [sha256Digest, length_encode, Platform.length_sha256]

theorem textLength_statements
    : textLength d.producerStatement.toObject = d.nodeId.length + d.commitId.length + 533 ∧
      textLength d.policyStatement.toObject = d.nodeId.length + 347 ∧
      textLength d.authorityStatement.toObject = d.nodeId.length + 541 := by
  have hnonce := length_of_isBytes d.nonce_valid
  refine ⟨?_, ?_, ?_⟩ <;>
  . simp only [Statement.toObject, Statement.toFields, producerStatement, policyStatement,
      authorityStatement, map_cons, map_nil, textLength, fieldsLength, statementDigest,
      zeroDigest, length_digest, emptyRoot, hnonce, d.attemptId_valid.2,
      d.versions_valid.1.2]
    simp only [← String.length_toList, String.reduceToList, length_cons, length_nil,
      zero_add, Nat.reduceAdd, Nat.reduceMul, Nat.reduceDiv]
    omega

theorem textLength_certificate (sequence reason : String)
    : textLength (d.certificate sequence reason).toObject =
      reason.length + sequence.length + 4 * d.nodeId.length + 2 * d.commitId.length + 3284 := by
  have hnonce := length_of_isBytes d.nonce_valid
  obtain ⟨hprod, hpol, hauth⟩ := d.textLength_statements
  simp only [CommitCertificate.toObject, certificate, CertificateHeader.toObject,
    CertificateSubject.toObject, CertificateContext.toObject, CertificateEvidence.toObject,
    CertificateDecision.toObject, CertificateBindings.toObject, CertificateSignatures.toObject,
    Signature.toObject, map_nil, subject, context, bindings, evidence,
    signatures, signature, textLength, fieldsLength, hprod, hpol, hauth,
    statementDigest, zeroDigest, length_digest, length_encode, length_replicate, emptyRoot, hnonce,
    d.attemptId_valid.2, d.versions_valid.1.2, d.versions_valid.2.2]
  simp only [← String.length_toList, String.reduceToList, length_cons, length_nil,
    zero_add, Nat.reduceAdd, Nat.reduceMul, Nat.reduceDiv]
  omega

theorem isPlainValue_statements
    : isPlainValue d.producerStatement.toObject ∧
      isPlainValue d.policyStatement.toObject ∧
      isPlainValue d.authorityStatement.toObject := by
  have hnodeId := isPlain_of_isIdentifier d.nodeId_valid
  have hcommitId := isPlain_of_isIdentifier d.commitId_valid
  have hnonce := isPlain_of_isBytes d.nonce_valid
  refine ⟨?_, ?_, ?_⟩ <;>
  . simp only [Statement.toObject, Statement.toFields, producerStatement, policyStatement,
      authorityStatement, map_cons, map_nil, isPlainValue, isPlainFields, statementDigest,
      zeroDigest, sha256Digest, isPlain_encode, emptyRoot, hnonce, hnodeId, hcommitId,
      isPlain_of_isIdentifier d.attemptId_valid.1, isPlain_of_isDecimal d.versions_valid.1.1]
    decide

variable {sequence reason : String}

theorem isPlainValue_certificate (hseq : isDecimal sequence) (hreason : isPlain reason)
    : isPlainValue (d.certificate sequence reason).toObject := by
  have hnodeId := isPlain_of_isIdentifier d.nodeId_valid
  have hcommitId := isPlain_of_isIdentifier d.commitId_valid
  have hnonce := isPlain_of_isBytes d.nonce_valid
  have hevid : isPlainValue d.evidence.toObject := by
    simp only [CertificateEvidence.toObject, evidence, isPlainValue, isPlainFields,
      d.isPlainValue_statements, statementDigest, sha256Digest, isPlain_encode]
    decide
  simp only [CommitCertificate.toObject, certificate, CertificateHeader.toObject,
    CertificateSubject.toObject, CertificateContext.toObject, CertificateDecision.toObject,
    CertificateBindings.toObject, CertificateSignatures.toObject, Signature.toObject, subject,
    context, bindings, signatures, signature, isPlainValue, isPlainFields, hevid, zeroDigest,
    sha256Digest, isPlain_encode, emptyRoot, hnonce, hnodeId, hcommitId, isPlain_of_isDecimal hseq,
    hreason, isPlain_of_isIdentifier d.attemptId_valid.1,
    isPlain_of_isDecimal d.versions_valid.1.1, isPlain_of_isDecimal d.versions_valid.2.1]
  decide

theorem encodable_signature {keyId} (h : isIdentifier keyId)
    : (signature keyId).Encodable :=
  ⟨h, isBytes_encode (length_replicate ..)⟩

theorem encodable_certificate (hseq : isDecimal sequence)
    : (d.certificate sequence reason).Encodable := by
  obtain ⟨hzero, hone⟩ := decimals
  obtain ⟨hagent, hcommit, hpol, hprod, hreg, hstore, hwf⟩ := identifiers
  have hdig := isBytes_sha256Digest []
  exact
    { header := ⟨hstore, hcommit, hseq⟩
      subject := ⟨hwf, d.nodeId_valid, d.attemptId_valid.1, hagent, authority_valid, hdig, hdig⟩
      context := ⟨hpol, hone, hone, hdig, hone, hzero, hzero, hone⟩
      evidence := d.encodable_evidence
      decision := ⟨d.commitId_valid, d.nonce_valid, hzero⟩
      bindings :=
        ⟨d.versions_valid.1.1, d.versions_valid.2.1, isBytes_sha256Digest _, forall_mem_nil _⟩
      signatures := ⟨encodable_signature hprod, encodable_signature hpol,
        encodable_signature hreg⟩ }

theorem encodeCertificate_certificate (hseq : isDecimal sequence) (hreason : isPlain reason)
    (hlen : reason.length + sequence.length + 4 * d.nodeId.length + 2 * d.commitId.length + 3284
      ≤ maxPayloadBytes)
    : ∃ raw, encodeCertificate (d.certificate sequence reason) = .ok raw ∧
        raw.length = reason.length + sequence.length + 4 * d.nodeId.length +
          2 * d.commitId.length + 3284 := by
  have hsize := length_dumps_of_isPlainValue (d.isPlainValue_certificate hseq hreason)
  rw [d.textLength_certificate] at hsize
  refine ⟨_, encodeCertificate_eq_ok.mpr ⟨[], rfl, tree_of_isShaped (isShaped_toObject d.exactKeys),
    d.exactKeys, d.encodable_certificate hseq, by simp [certificate, bindings],
    by simp [certificate, bindings], by simp [certificate, bindings], rfl, ?_⟩, hsize⟩
  exact hsize.le.trans hlen

end Draft

def rootDraft : Draft where
  nodeId := "node"
  commitId := "commit-1"
  nonce := Base64.encode (List.replicate 16 0)
  nodeId_valid := by decide
  commitId_valid := by decide
  nonce_valid := isBytes_encode (List.length_replicate ..)

theorem encodeCertificate_rootDraft {reason} (hreason : isPlain reason)
    (hlen : reason.length ≤ 1000000)
    : ∃ raw, encodeCertificate (rootDraft.certificate "1" reason) = .ok raw ∧
        raw.length = reason.length + 3317 := by
  have hlens : rootDraft.nodeId.length = 4 ∧ rootDraft.commitId.length = 8 ∧ "1".length = 1 := by
    decide
  obtain ⟨raw, hraw, hsize⟩ := rootDraft.encodeCertificate_certificate
    (show isDecimal "1" = true by decide) hreason (by
      rw [maxPayloadBytes]
      omega)
  exact ⟨raw, hraw, by omega⟩

end Apcc.Sample

namespace Apcc

variable [Platform]

/--
Encoding is a bijection onto the accepted bytes, up to the order of the predecessors: what is
encoded is decoded with its predecessors in canonical order, what is decoded is encoded as the same
bytes, and certificates with one encoding differ at most in that order.
-/
theorem encodeCertificate_bijective
    : (∀ (c : CommitCertificate) (raw : Bytes), encodeCertificate c = .ok raw →
        ∃ ps, sortByCanonical PredecessorRef.toObject c.bindings.predecessors = .ok ps ∧
          decodeCertificate raw = .ok (c.withPredecessors ps)) ∧
      (∀ (raw : Bytes) (c : CommitCertificate), decodeCertificate raw = .ok c →
        encodeCertificate c = .ok raw) ∧
      (∀ (c c' : CommitCertificate) (raw : Bytes), encodeCertificate c = .ok raw →
        encodeCertificate c' = .ok raw →
        c'.bindings.predecessors.Perm c.bindings.predecessors ∧
          c' = c.withPredecessors c'.bindings.predecessors) := by
  refine ⟨fun c raw h => ?_, fun raw c => encodeCertificate_decodeCertificate,
    fun c c' raw h h' => ?_⟩
  . obtain ⟨ps, hps, -, hdec⟩ := decodeCertificate_encodeCertificate h
    exact ⟨ps, hps, hdec⟩
  . obtain ⟨ps, hps, -, hdec⟩ := decodeCertificate_encodeCertificate h
    obtain ⟨ps', hps', -, hdec'⟩ := decodeCertificate_encodeCertificate h'
    have hsame := Except.ok.inj (hdec.symm.trans hdec')
    obtain ⟨header, subject, context, evidence, decision, bindings, signatures⟩ := c
    obtain ⟨header', subject', context', evidence', decision', bindings', signatures'⟩ := c'
    simp only [CommitCertificate.withPredecessors, CommitCertificate.mk.injEq,
      CertificateBindings.mk.injEq] at hsame
    obtain ⟨rfl, rfl, rfl, rfl, rfl, ⟨hexp, hcomm, hroot, rfl⟩, rfl⟩ := hsame
    refine ⟨(perm_of_sortByCanonical hps').symm.trans (perm_of_sortByCanonical hps), ?_⟩
    simp [CommitCertificate.withPredecessors, hexp, hcomm, hroot]

end Apcc

namespace Apcc.Sample

theorem encodeCertificate_bijective_rootDraft
    : ∃ raw, encodeCertificate (rootDraft.certificate "1" "OK") = .ok raw ∧
        decodeCertificate raw = .ok (rootDraft.certificate "1" "OK") := by
  obtain ⟨raw, hraw, -⟩ := encodeCertificate_rootDraft (show isPlain "OK" = true by decide)
    (by decide)
  obtain ⟨ps, hps, hdec⟩ := encodeCertificate_bijective.1 _ _ hraw
  obtain rfl : [] = ps := Except.ok.inj hps
  exact ⟨raw, hraw, hdec⟩

end Apcc.Sample
