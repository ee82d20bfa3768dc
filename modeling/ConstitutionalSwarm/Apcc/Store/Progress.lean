import ConstitutionalSwarm.Apcc.CertificateEncoding
import ConstitutionalSwarm.Apcc.Store.Step

namespace Apcc

theorem insert_isOk {α : Type} [TableSchema α] (t : Table α) (row : α)
    (hcheck : TableSchema.check row)
    (hcompat : ∀ r ∈ t, TableSchema.compatible r row) : ∃ t', insert t row = .ok t' := by
  obtain ⟨t', ht'⟩ := Table.insert?_isSome hcheck hcompat
  exact ⟨t', insert_eq_ok.mpr ht'⟩

theorem isOk_bind {α β : Type} {x} {f : α → Py β} (hx : ∃ a, x = .ok a)
    (hf : ∀ a, x = .ok a → ∃ b, f a = .ok b) : ∃ b, (x >>= f) = .ok b := by
  obtain ⟨a, rfl⟩ := hx
  exact hf a rfl

theorem Store.commitIndex?_eq_none {s : Store} {commitId : String}
    : s.commitIndex? commitId = none ↔ ∀ r ∈ s.commitIndex, r.commitId ≠ commitId := by
  simp [commitIndex?, Table.find?_eq_none]

theorem Store.nonceOwner?_eq_none {s : Store} {nonce : String}
    : s.nonceOwner? nonce = none ↔ ∀ r ∈ s.nonceLedger, r.nonce ≠ nonce := by
  simp [nonceOwner?, Table.find?_eq_none]

theorem Check.liftM_ok {α : Type} (a : α) : (liftM (Except.ok a : Py α) : Check α) = .ok a := rfl

theorem Check.ok_bind {α β : Type} (a : α) (f : α → Check β) : (Except.ok a >>= f) = f a := rfl

theorem provision_nil [Platform] (cfg : AuthorityConfig)
    : provision cfg [] = .ok .empty := by
  have hvalid : ∃ snapshot, validateSemanticIntegrity cfg .empty = .ok snapshot := by
    simp [validateSemanticIntegrity, Store.empty, Table.empty, validateDispositions,
      validateLogicalNodes, validateCandidates, validateTrustLog, validateTrustRows,
      validateIndexes, validateEdges, validateDecisions, validateOutputRefs, validateSupersessions,
      validateGenerations, validateOutbox, validateConflicts, sameMembers, committedIds]
  obtain ⟨snapshot, hsnap⟩ := hvalid
  simp [provision, hsnap]

theorem reachable_empty [Platform] (authority : Authority) : Reachable authority .empty :=
  ⟨[], .empty, provision_nil _, .refl _⟩

section Denials

variable {s : Store} {request : AtomicCommitRequest} {reason : FailureCode}
  {old : Option String}

theorem claimNonce_isOk (hreplayed : reason = .nonceReplay ↔ (s.nonceOwner? request.nonce).isSome)
    (hids : ∀ r ∈ s.nonceLedger, r.commitId ≠ request.commitId)
    : ∃ claim, claimNonce s request reason = .ok claim := by
  unfold claimNonce
  split
  . next owner howner =>
    rw [howner, Option.isSome_some] at hreplayed
    exact ⟨(owner.commitId, s.nonceLedger), by simp [hreplayed]⟩
  . next hnone =>
    rw [hnone, Option.isSome_none] at hreplayed
    have hnonces := Store.nonceOwner?_eq_none.mp hnone
    obtain ⟨ledger, hled⟩ := insert_isOk s.nonceLedger ⟨request.nonce, request.commitId⟩
      rfl fun r hr => by simp [TableSchema.compatible, hnonces r hr, hids r hr]
    exact ⟨(request.commitId, ledger), by simp [hreplayed, hled]⟩

variable [Platform]

def denialAudit (request : AtomicCommitRequest) (reason : FailureCode) (old : Option String)
    : String :=
  auditId (if reason = .nodeVersionConflict then RequestOutcome.conflicted else .denied).value
    [request.commitId, operationIdentity request old, reason.value]

theorem negative_isOk {digest : String} (hpub : publicRequestDigest request = .ok digest)
    (hindex : s.commitIndex? request.commitId = none)
    (hreqs : ∀ r ∈ s.requestIndex, r.requestDigest ≠ digest ∧ r.commitId ≠ request.commitId)
    (hreplayed : reason = .nonceReplay ↔ (s.nonceOwner? request.nonce).isSome)
    (hnonces : ∀ r ∈ s.nonceLedger, r.commitId ≠ request.commitId)
    (haudits : ∀ r ∈ s.auditEvents, r.auditEventId ≠ denialAudit request reason old)
    (hdecs : ∀ r ∈ s.decisions, r.commitId ≠ request.commitId ∧
      r.auditEventId ≠ denialAudit request reason old)
    : ∃ answer, negative s request reason old = .ok answer := by
  have hids := Store.commitIndex?_eq_none.mp hindex
  unfold negative
  dsimp only
  refine isOk_bind (insert_isOk _ _ rfl fun r hr => decide_eq_true (hids r hr)) fun _ _ => ?_
  rw [hpub, ok_bind]
  refine isOk_bind (insert_isOk _ _ rfl fun r hr => by
    simp [TableSchema.compatible, hreqs r hr]) fun _ _ => ?_
  refine isOk_bind (claimNonce_isOk hreplayed hnonces) fun _ _ => ?_
  refine isOk_bind (insert_isOk _ _ rfl fun r hr => decide_eq_true (haudits r hr)) fun _ _ => ?_
  refine isOk_bind (insert_isOk _ _ ?_ fun r hr => ?_) fun _ _ => ⟨_, rfl⟩
  . by_cases hreason : reason = .nodeVersionConflict <;> simp [TableSchema.check, hreason]
  . simpa [TableSchema.compatible, denialAudit] using hdecs r hr

variable {authority : Authority} {now : Int} {clock sequence : Nat}

theorem commit_eq_negative (hindex : s.commitIndex? request.commitId = none)
    (hnonce : s.nonceOwner? request.nonce = none) (hseq : nextSequence s = .ok sequence)
    (hclock : trustedNow now = .ok clock)
    (herror : commitError authority s request old
      (certificateOf authority request (toString sequence) clock) = .error (.code reason))
    : commit authority s request old now = negative s request reason old := by
  simp only [commit, hindex, commitFresh, hnonce, hseq, hclock, ok_bind, herror, Check.failure]
  rfl

theorem commitError_of_mismatch
    (hprod : canonicalStatement cert.evidence.producerStatement = .ok producer)
    (hpol : canonicalStatement cert.evidence.policyStatement = .ok policy)
    (hreg : canonicalStatement cert.evidence.authorityStatement = .ok registry)
    (hmismatch : sha256Digest producer ≠ cert.evidence.producerStatementDigest)
    : commitError authority s request old cert =
      .error (.code .statementDigestMismatch) := by
  have hreject : reject (sha256Digest producer ≠ cert.evidence.producerStatementDigest)
      .statementDigestMismatch = .error (.code .statementDigestMismatch) := by
    simp [reject, hmismatch]
  simp only [commitError, certificateError, verifyEvidence, hprod, hpol, hreg,
    Check.liftM_ok, Check.ok_bind, hreject]
  rfl

end Denials

end Apcc

namespace Apcc.Sample

def binding (role : TrustRole) (scope : List String) (keyId : String) (byte : UInt8)
    (scope_length : scope.length = role.scopeLength) (nonempty : keyId ≠ "" ∧ "" ∉ scope)
    : TrustBinding where
  role := role
  scope := scope
  keyId := keyId
  publicKey := List.replicate 32 byte
  scope_length := scope_length
  nonempty := nonempty
  key_length := List.length_replicate

theorem sha256Digest_ne_empty (value : Bytes) : sha256Digest value ≠ "" := by
  intro h
  have hlen := Draft.length_digest value
  rw [h] at hlen
  exact absurd hlen (by decide)

theorem producer_nonempty
    : "producer" ≠ "" ∧ "" ∉ ["agent", "authority:team:agent", zeroDigest] := by
  simp [zeroDigest, sha256Digest_ne_empty]

theorem registry_nonempty : "registry" ≠ "" ∧ "" ∉ [zeroDigest, "1"] := by
  simp [zeroDigest, sha256Digest_ne_empty]

def authority : Authority where
  config :=
    { authorityStoreId := "store"
      producerTrust :=
        [binding .producer ["agent", "authority:team:agent", zeroDigest] "producer" 1 rfl
          producer_nonempty]
      policyTrust := [binding .policy ["policy", "1", "1"] "policy" 2 rfl (by decide)]
      registryTrust :=
        [binding .registry [zeroDigest, "1"] "registry" 3 rfl registry_nonempty]
      commitTrust := binding .commit ["store"] "commit" 4 rfl (by decide)
      statusTrust := binding .status ["store"] "status" 5 rfl (by decide)
      freshness := ⟨1000, 1000, by decide, by decide, by decide⟩
      storeId_nonempty := by decide
      producer_role := by simp [binding]
      policy_role := by simp [binding]
      registry_role := by simp [binding]
      commit_role := by simp [binding]
      status_role := by simp [binding]
      compatible := by simp [binding, TrustBinding.compatible] }
  sign _ keyId _ _ := Draft.signature keyId

def bareStatement (statementType : String) : Statement where
  entries :=
    [("decision", "allow"), ("protocol_version", "APCC-1.0-draft"),
      ("statement_type", statementType)]
  sorted := Json.sortedKeys_iff.mpr (by simp only [List.map_cons, List.map_nil]; decide)

def bareEvidence : CertificateEvidence where
  producerStatement := bareStatement "apcc.producer-statement"
  producerStatementDigest := ""
  policyStatement := bareStatement "apcc.policy-statement"
  policyStatementDigest := ""
  authorityStatement := bareStatement "apcc.authority-statement"
  authorityStatementDigest := ""
  literals := by decide

def request (evidence : CertificateEvidence) (commitId nonce : String) : AtomicCommitRequest where
  subject := ⟨"workflow", "node", "attempt", "agent", "authority:team:agent", "", ""⟩
  context := ⟨"policy", "1", "1", "root", "1", "0", "0", "1"⟩
  evidence := evidence
  bindings := ⟨"0", "1", "", [], rootDraft.versions⟩
  signatures := Draft.signatures
  commitId := commitId
  nonce := nonce
  requestDigest := ""

def Draft.spoiltEvidence (d : Draft) : CertificateEvidence :=
  { d.evidence with producerStatementDigest := "" }

section Denials

variable {evidence : CertificateEvidence} {producer policy registry : Bytes}
  (hprod : canonicalStatement evidence.producerStatement = .ok producer)
  (hpol : canonicalStatement evidence.policyStatement = .ok policy)
  (hreg : canonicalStatement evidence.authorityStatement = .ok registry)
  (hempty : evidence.producerStatementDigest = "")

include hprod hpol hreg hempty

theorem commitError_of_empty (s : Store) (commitId nonce : String) (sequence : String) (now : Nat)
    : commitError authority s (request evidence commitId nonce) none
        (certificateOf authority (request evidence commitId nonce) sequence now) =
      .error (.code .statementDigestMismatch) :=
  commitError_of_mismatch hprod hpol hreg (hempty ▸ sha256Digest_ne_empty producer)

omit hpol hreg hempty in
theorem publicRequestDigest_request (commitId nonce : String)
    : publicRequestDigest (request evidence commitId nonce) = .ok (sha256Digest producer) := by
  simp only [publicRequestDigest, request, hprod, ok_bind, pure_eq_ok]

theorem atomicCommit_isOk (commitId nonce : String)
    : ∃ result s', atomicCommit authority .empty (request evidence commitId nonce) 0
          = .ok (result, s') ∧
        negative .empty (request evidence commitId nonce) .statementDigestMismatch none
          = .ok (result, s') := by
  have herror := commitError_of_empty hprod hpol hreg hempty .empty commitId nonce (toString 1) 0
  have hnegative : ∃ answer, negative .empty (request evidence commitId nonce)
      .statementDigestMismatch none = .ok answer := by
    refine negative_isOk (publicRequestDigest_request hprod commitId nonce) rfl ?_ ?_ ?_ ?_ ?_
    case refine_2 => simp [Store.empty, Table.empty, Store.nonceOwner?, Table.find?]
    all_goals
      intro r hr
      simp [Store.empty, Table.empty, Table.mem_def] at hr
  obtain ⟨⟨result, s'⟩, hnegative⟩ := hnegative
  exact ⟨result, s', (commit_eq_negative rfl rfl rfl rfl herror).trans hnegative, hnegative⟩

end Denials

theorem atomicCommit_bareRequest (commitId nonce : String)
    : ∃ result s', atomicCommit authority .empty (request bareEvidence commitId nonce) 0
        = .ok (result, s') := by
  have hempty : bareEvidence.producerStatementDigest = "" := rfl
  obtain ⟨result, s', h, -⟩ := atomicCommit_isOk rfl rfl rfl hempty commitId nonce
  exact ⟨result, s', h⟩

end Apcc.Sample
