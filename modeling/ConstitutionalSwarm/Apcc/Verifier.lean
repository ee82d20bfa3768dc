import ConstitutionalSwarm.Apcc.Codec

namespace Apcc

inductive Stop where
  | code (code : FailureCode)
  | raised (error : PyError)
  deriving DecidableEq

abbrev Check := Except Stop

def Check.lift {α : Type} : Py α → Check α
  | .ok a => .ok a
  | .error e => .error (.raised e)

instance : MonadLift Py Check where
  monadLift := Check.lift

def Check.ofCodec {α : Type} : Py α → Check α
  | .ok a => .ok a
  | .error (.codecError code) => .error (.code code)
  | .error e => .error (.raised e)

def reject (condition : Bool) (code : FailureCode) : Check Unit :=
  if condition then .error (.code code) else .ok ()

@[simp]
theorem reject_eq_ok {condition : Bool} {code u}
    : reject condition code = .ok u ↔ condition = false := by
  cases condition <;> simp [reject]

@[simp]
theorem Check.lift_eq_ok {α : Type} {x : Py α} {a : α} : Check.lift x = .ok a ↔ x = .ok a := by
  cases x <;> simp [Check.lift]

@[simp]
theorem Check.monadLift_eq_ok {α : Type} {x : Py α} {a : α}
    : (monadLift x : Check α) = .ok a ↔ x = .ok a :=
  Check.lift_eq_ok

@[simp]
theorem Check.ofCodec_eq_ok {α : Type} {x : Py α} {a : α}
    : Check.ofCodec x = .ok a ↔ x = .ok a := by
  rcases x with e | a
  . cases e <;> simp [Check.ofCodec]
  . simp [Check.ofCodec]

inductive TrustRole where
  | producer
  | policy
  | registry
  | commit
  | status
  deriving DecidableEq

def TrustRole.scopeLength : TrustRole → Nat
  | .producer => 3
  | .policy => 3
  | .registry => 2
  | .commit => 1
  | .status => 1

structure TrustBinding where
  role : TrustRole
  scope : List String
  keyId : String
  publicKey : Bytes
  scope_length : scope.length = role.scopeLength
  nonempty : keyId ≠ "" ∧ "" ∉ scope
  key_length : publicKey.length = 32
  deriving DecidableEq

def TrustBinding.compatible (a b : TrustBinding) : Prop :=
  ¬ (a.role = b.role ∧ a.scope = b.scope) ∧ (a.keyId = b.keyId → a.role = b.role) ∧
    (a.publicKey = b.publicKey → a.role = b.role)

structure ScopedTrust where
  bindings : List TrustBinding
  compatible : bindings.Pairwise TrustBinding.compatible

variable (trust : ScopedTrust)

def ScopedTrust.resolve (role : TrustRole) (scope : List String)
    : Option TrustBinding :=
  trust.bindings.find? fun binding => binding.role = role && binding.scope = scope

section Historical

variable [Platform]

def verifySignature (signature : Signature) (bodyKeyId : String) (trust : ScopedTrust)
    (role : TrustRole) (scope : List String) (domain : Domain) (body : Bytes)
    (invalidCode : FailureCode) : Check Unit := do
  reject (signature.keyId ≠ bodyKeyId) .keyIdMismatch
  match trust.resolve role scope with
  | none => reject true .unknownKey
  | some binding =>
    reject (binding.keyId ≠ bodyKeyId) .unknownKey
    reject (!verifyDetached binding.publicKey domain body signature.signatureB64u) invalidCode

def int (value : String) : Py Int :=
  match PyInt.int? value with
  | some n => .ok n
  | none => .error (.valueError "invalid literal for int() with base 10")

omit [Platform] in
@[simp]
theorem int_eq_ok {value} {n : Int} : int value = .ok n ↔ PyInt.int? value = some n := by
  unfold int
  split <;> simp [*]

def verifyEvidence (certificate : CommitCertificate) (trust : ScopedTrust) : Check Unit := do
  let evidence := certificate.evidence
  let signatures := certificate.signatures
  let producer ← canonicalStatement evidence.producerStatement
  let policy ← canonicalStatement evidence.policyStatement
  let authority ← canonicalStatement evidence.authorityStatement
  reject (sha256Digest producer ≠ evidence.producerStatementDigest) .statementDigestMismatch
  reject (sha256Digest policy ≠ evidence.policyStatementDigest) .statementDigestMismatch
  reject (sha256Digest authority ≠ evidence.authorityStatementDigest) .statementDigestMismatch
  let proposalDigest := evidence.producerStatementDigest
  reject ((← evidence.policyStatement.get "proposal_digest") ≠ proposalDigest)
    .proposalDigestMismatch
  reject ((← evidence.authorityStatement.get "proposal_digest") ≠ proposalDigest)
    .proposalDigestMismatch
  -- the statement types that come next in the source are part of the type of `evidence`
  let producerScope :=
    [← evidence.producerStatement.get "agent_id",
      ← evidence.producerStatement.get "actor_authority",
      ← evidence.authorityStatement.get "authority_root"]
  let policyScope :=
    [← evidence.policyStatement.get "policy_id", ← evidence.policyStatement.get "policy_version",
      ← evidence.policyStatement.get "policy_epoch"]
  let registryScope :=
    [← evidence.authorityStatement.get "authority_root",
      ← evidence.authorityStatement.get "authority_epoch"]
  let producerKeyId ← evidence.producerStatement.get "producer_key_id"
  let policyKeyId ← evidence.policyStatement.get "policy_key_id"
  let authorityKeyId ← evidence.authorityStatement.get "authority_key_id"
  verifySignature signatures.producer producerKeyId trust .producer producerScope .proposal producer
    .invalidProducerSignature
  verifySignature signatures.policyAuthority policyKeyId trust .policy policyScope .policy policy
    .invalidPolicySignature
  verifySignature signatures.authorityRegistry authorityKeyId trust .registry registryScope
    .authority authority .invalidAuthoritySignature

def verifyStatementSubject (subject : CertificateSubject) (statement : Statement)
    : Check Unit := do
  reject ((← statement.get "workflow_id") ≠ subject.workflowId) .crossWorkflowReplay
  reject ((← statement.get "node_id") ≠ subject.nodeId) .crossNodeReplay
  reject ((← statement.get "attempt_id") ≠ subject.attemptId) .attemptMismatch

def verifyValidity (committedAt : Int) (statement : Statement) : Check Unit := do
  let issued ← int (← statement.get "issued_at_ms")
  let expires ← int (← statement.get "expires_at_ms")
  reject (issued ≥ expires || committedAt < issued) .attestationNotYetValid
  reject (committedAt > expires) .attestationExpired

def verifyBindings (certificate : CommitCertificate) : Check Unit := do
  let subject := certificate.subject
  let context := certificate.context
  let decision := certificate.decision
  let bindings := certificate.bindings
  let producer := certificate.evidence.producerStatement
  let policy := certificate.evidence.policyStatement
  let authority := certificate.evidence.authorityStatement
  verifyStatementSubject subject producer
  reject ((← producer.get "agent_id") ≠ subject.agentId) .subjectMismatch
  reject ((← producer.get "actor_authority") ≠ subject.actorAuthority) .actorAuthorityMismatch
  reject ((← producer.get "input_digest") ≠ subject.inputDigest) .inputDigestMismatch
  reject ((← producer.get "output_digest") ≠ subject.outputDigest) .outputDigestMismatch
  reject ((← authority.get "agent_id") ≠ subject.agentId) .subjectMismatch
  reject ((← authority.get "producer_key_id") ≠ (← producer.get "producer_key_id")) .keyIdMismatch
  reject ((← authority.get "actor_authority") ≠ subject.actorAuthority) .actorAuthorityMismatch
  verifyStatementSubject subject policy
  verifyStatementSubject subject authority
  reject (context.policyId ≠ (← policy.get "policy_id")) .stalePolicyEpoch
  reject (context.policyVersion ≠ (← policy.get "policy_version")) .stalePolicyEpoch
  reject (context.policyEpoch ≠ (← policy.get "policy_epoch")) .stalePolicyEpoch
  reject (context.authorityRoot ≠ (← authority.get "authority_root")) .staleAuthorityEpoch
  reject (context.authorityEpoch ≠ (← authority.get "authority_epoch")) .staleAuthorityEpoch
  reject (context.workflowEpoch ≠ (← authority.get "workflow_epoch")) .staleWorkflowEpoch
  reject (context.agentRevocationGeneration ≠ (← authority.get "agent_revocation_generation"))
    .actorRevoked
  reject (context.workflowRevocationGeneration ≠
    (← authority.get "workflow_revocation_generation")) .workflowRevoked
  reject (decision.commitId ≠ (← producer.get "commit_id")) .subjectMismatch
  reject (decision.nonce ≠ (← producer.get "nonce")) .subjectMismatch
  -- the constructor of the bindings has already compared the two versions
  reject (bindings.expectedNodeVersion ≠ (← producer.get "expected_node_version"))
    .nodeVersionConflict
  reject (bindings.predecessorRoot ≠ (← producer.get "predecessor_root")) .predecessorRootMismatch
  reject ((← predecessorRoot bindings.predecessors) ≠ bindings.predecessorRoot)
    .predecessorRootMismatch
  reject (bindings.predecessors.any (·.workflowId ≠ subject.workflowId)) .crossWorkflowPredecessor
  let committedAt ← int decision.committedAtMs
  verifyValidity committedAt producer
  verifyValidity committedAt policy
  verifyValidity committedAt authority

structure Verified where
  certificate : CommitCertificate
  certificateDigest : String

def verifyHistorical (envelope : Bytes) (trust : ScopedTrust) : Check Verified := do
  let (detached, certificate) ← Check.ofCodec (decodeEnvelopeCertificate envelope)
  reject (sha256Digest detached.payload ≠ detached.payloadSha256) .invalidCommitSeal
  verifySignature detached.sealSignature certificate.header.commitAuthorityKeyId trust .commit
    [certificate.header.authorityStoreId] .commit detached.payload .invalidCommitSeal
  verifyEvidence certificate trust
  verifyBindings certificate
  return ⟨certificate, detached.payloadSha256⟩

end Historical

structure CausalClosureLimits where
  maxDepth : Nat := 64
  maxCertificates : Nat := 4096
  maxTotalBytes : Nat := 64 * 1024 * 1024

def predecessorIdentity (certificate : CommitCertificate) (certificateDigest : String)
    : PredecessorRef where
  workflowId := certificate.subject.workflowId
  nodeId := certificate.subject.nodeId
  committedNodeVersion := certificate.bindings.committedNodeVersion
  commitId := certificate.decision.commitId
  certificateDigest := certificateDigest
  outputDigest := certificate.subject.outputDigest

structure Walk where
  cache : List (String × CommitCertificate)
  complete : List String
  totalBytes : Nat

section Closure

variable [Platform]

def visitReferences (resolve : String → Walk → Check (CommitCertificate × Walk))
    (visit : CommitCertificate → List String → Walk → Check Walk) (active : List String)
    : List PredecessorRef → Walk → Check Walk
  | [], walk => .ok walk
  | reference :: references, walk => do
    let digest := reference.certificateDigest
    reject (active.contains digest) .invalidPredecessor
    let (resolved, walk) ← resolve digest walk
    reject (predecessorIdentity resolved digest ≠ reference) .invalidPredecessor
    if walk.complete.contains digest then
      visitReferences resolve visit active references walk
    else
      let walk ← visit resolved (digest :: active) walk
      visitReferences resolve visit active references
        { walk with complete := digest :: walk.complete }

def visit (resolve : String → Walk → Check (CommitCertificate × Walk))
    : Nat → CommitCertificate → List String → Walk → Check Walk
  | 0, certificate, _, walk => do
    reject (!certificate.bindings.predecessors.isEmpty) .depthLimitExceeded
    return walk
  | depth + 1, certificate, active, walk =>
    visitReferences resolve (visit resolve depth) active certificate.bindings.predecessors walk

end Closure

end Apcc
