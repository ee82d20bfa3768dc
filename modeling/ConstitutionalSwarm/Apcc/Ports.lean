import ConstitutionalSwarm.Apcc.Verifier

namespace Apcc

variable [Platform]

structure StatusFreshnessPolicy where
  maximumStalenessMs : Nat
  issuedStatusLifetimeMs : Nat
  staleness_le : maximumStalenessMs ≤ maxSafeInteger
  lifetime_pos : 0 < issuedStatusLifetimeMs
  lifetime_le : issuedStatusLifetimeMs ≤ maximumStalenessMs

structure AuthorityConfig where
  authorityStoreId : String
  producerTrust : List TrustBinding
  policyTrust : List TrustBinding
  registryTrust : List TrustBinding
  commitTrust : TrustBinding
  statusTrust : TrustBinding
  freshness : StatusFreshnessPolicy
  storeId_nonempty : authorityStoreId ≠ ""
  producer_role : producerTrust ≠ [] ∧ ∀ b ∈ producerTrust, b.role = .producer
  policy_role : policyTrust ≠ [] ∧ ∀ b ∈ policyTrust, b.role = .policy
  registry_role : registryTrust ≠ [] ∧ ∀ b ∈ registryTrust, b.role = .registry
  commit_role : commitTrust.role = .commit ∧ commitTrust.scope = [authorityStoreId]
  status_role : statusTrust.role = .status ∧ statusTrust.scope = [authorityStoreId]
  compatible : (producerTrust ++ policyTrust ++ registryTrust ++
    [commitTrust, statusTrust]).Pairwise TrustBinding.compatible

def AuthorityConfig.trustBindings (config : AuthorityConfig) : List TrustBinding :=
  config.producerTrust ++ config.policyTrust ++ config.registryTrust ++
    [config.commitTrust, config.statusTrust]

def AuthorityConfig.scopedTrust (config : AuthorityConfig) : ScopedTrust where
  bindings := config.trustBindings
  compatible := config.compatible

inductive AuthoritySigningRole where
  | commit
  | status
  deriving DecidableEq

structure Authority where
  config : AuthorityConfig
  sign (role : AuthoritySigningRole) (keyId : String) (domain : Domain) (canonicalBody : Bytes)
    : Signature

structure StageResultRequest where
  subject : CertificateSubject
  expectedNodeVersion : String
  resultBytes : Bytes
  plain : isPlainId subject.workflowId = true ∧ isPlainId subject.nodeId = true ∧
    isPlainId subject.attemptId = true ∧ isPlainId subject.agentId = true

structure AtomicCommitRequest where
  subject : CertificateSubject
  context : CertificateContext
  evidence : CertificateEvidence
  bindings : CertificateBindings
  signatures : CertificateSignatures
  commitId : String
  nonce : String
  requestDigest : String
  deriving DecidableEq

inductive RevocationScope where
  | certificate
  | actor
  | workflow
  deriving DecidableEq

def RevocationScope.value : RevocationScope → String
  | .certificate => "CERTIFICATE"
  | .actor => "ACTOR"
  | .workflow => "WORKFLOW"

def RevocationScope.accepts (scope : RevocationScope) (workflowId targetId : String) : Bool :=
  match scope with
  | .certificate => (Base64.decode targetId).any (·.length = 32)
  | .actor => isPlainId targetId
  | .workflow => isPlainId targetId && targetId = workflowId

structure RevocationRequest where
  scope : RevocationScope
  workflowId : String
  targetId : String
  nextGeneration : String
  reason : String
  plain : isPlainId workflowId = true
  target : scope.accepts workflowId targetId = true

structure SupersessionRequest where
  oldCertificateDigest : String
  newProposal : AtomicCommitRequest

structure CommitResult where
  commitId : String
  outcome : RequestOutcome
  reason : String
  certificatePayloadBytes : Option Bytes
  certificateEnvelopeBytes : Option Bytes
  certificateDigest : Option String
  auditEventId : String
  deriving DecidableEq

end Apcc
