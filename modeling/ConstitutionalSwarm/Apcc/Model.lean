import ConstitutionalSwarm.Apcc.Failure
import ConstitutionalSwarm.Data.JsonLemmas
import ConstitutionalSwarm.Data.PyInt

namespace Apcc

inductive CandidateLifecycle where
  | unseen
  | eligible
  | executing
  | resultStaged
  | evidenceAssembled
  | commitPending
  | quarantined
  deriving DecidableEq

def CandidateLifecycle.value : CandidateLifecycle → String
  | .unseen => "UNSEEN"
  | .eligible => "ELIGIBLE"
  | .executing => "EXECUTING"
  | .resultStaged => "RESULT_STAGED"
  | .evidenceAssembled => "EVIDENCE_ASSEMBLED"
  | .commitPending => "COMMIT_PENDING"
  | .quarantined => "QUARANTINED"

inductive CertificateDisposition where
  | current
  | superseded
  | revoked
  deriving DecidableEq

inductive RequestOutcome where
  | committed
  | denied
  | conflicted
  deriving DecidableEq

def RequestOutcome.value : RequestOutcome → String
  | .committed => "COMMITTED"
  | .denied => "DENIED"
  | .conflicted => "CONFLICTED"

inductive AuthorityStatusValue where
  | current
  | revoked
  deriving DecidableEq

def AuthorityStatusValue.value : AuthorityStatusValue → String
  | .current => "current"
  | .revoked => "revoked"

inductive SupersessionValue where
  | no
  | yes
  deriving DecidableEq

def SupersessionValue.value : SupersessionValue → String
  | .no => "no"
  | .yes => "yes"

abbrev Fields := List (String × Json)

def object : Json → Py Fields
  | .obj fields => .ok fields
  | _ => .error (.typeError "APCC object must be a string-keyed mapping")

variable (value : Fields)

def expectKeys (expected : List String) : Py Unit :=
  ensure ((value.map Prod.fst).all (expected.contains ·) &&
      expected.all ((value.map Prod.fst).contains ·))
    (.valueError "invalid APCC object keys")

def item (key : String) : Py Json :=
  match value.lookup key with
  | some v => .ok v
  | none => .error (.keyError key)

def string (value : Fields) (key : String) : Py String := do
  match ← item value key with
  | .str s => return s
  | _ => throw (.typeError ("APCC field '" ++ key ++ "' must be a string"))

def array (key message : String) : Py (List Json) := do
  match ← item value key with
  | .arr items => return items
  | _ => throw (.typeError message)

def nested {α : Type} (value : Fields) (key : String) (fromObject : Fields → Py α) : Py α := do
  fromObject (← object (← item value key))

structure Statement where
  entries : List (String × String)
  sorted : Json.SortedKeys entries
  deriving DecidableEq

namespace Statement

def ofPairs (pairs : List (String × String)) : Statement where
  entries := Json.dict pairs
  sorted := Json.sortedKeys_dict pairs

def get? (statement : Statement) (key : String) : Option String :=
  statement.entries.lookup key

def get (statement : Statement) (key : String) : Py String :=
  match statement.get? key with
  | some v => .ok v
  | none => .error (.keyError key)

def toFields (statement : Statement) : Fields :=
  statement.entries.map fun e => (e.1, .str e.2)

def toObject (statement : Statement) : Json :=
  .obj statement.toFields

def stringEntry (error : PyError) (e : String × Json) : Py (String × String) :=
  match e.2 with
  | .str s => .ok (e.1, s)
  | _ => .error error

def fromFields (error : PyError) : Py Statement := do
  let pairs ← value.mapM (stringEntry error)
  return ofPairs pairs

end Statement

structure Signature where
  algorithm : String
  keyId : String
  signatureB64u : String
  valid : algorithm = "Ed25519"
  deriving DecidableEq

namespace Signature

def keys : List String :=
  ["algorithm", "key_id", "signature_b64u"]

def fromObject : Py Signature := do
  expectKeys value keys
  let algorithm ← string value "algorithm"
  let keyId ← string value "key_id"
  let signatureB64u ← string value "signature_b64u"
  if valid : algorithm = "Ed25519" then
    return ⟨algorithm, keyId, signatureB64u, valid⟩
  else throw (.valueError "APCC v1 requires Ed25519 signatures")

def toObject (v : Signature) : Json :=
  .obj
    [("algorithm", .str v.algorithm), ("key_id", .str v.keyId),
      ("signature_b64u", .str v.signatureB64u)]

end Signature

abbrev CertificateHeader.supported (protocolVersion certificateType encodingProfile digestAlgorithm
    signatureAlgorithm : String) : Prop :=
  protocolVersion = "APCC-1.0-draft" ∧ certificateType = "apcc.commit-certificate" ∧
    encodingProfile = "APCC-CJ1" ∧ digestAlgorithm = "SHA-256" ∧ signatureAlgorithm = "Ed25519"

theorem CertificateHeader.supported_v1
    : supported "APCC-1.0-draft" "apcc.commit-certificate" "APCC-CJ1" "SHA-256" "Ed25519" :=
  ⟨rfl, rfl, rfl, rfl, rfl⟩

structure CertificateHeader where
  protocolVersion : String
  certificateType : String
  encodingProfile : String
  digestAlgorithm : String
  signatureAlgorithm : String
  authorityStoreId : String
  commitAuthorityKeyId : String
  certificateSequence : String
  valid : CertificateHeader.supported protocolVersion certificateType encodingProfile
    digestAlgorithm signatureAlgorithm
  deriving DecidableEq

namespace CertificateHeader

def firstUnsupported (protocolVersion certificateType encodingProfile digestAlgorithm : String)
    : String :=
  if protocolVersion ≠ "APCC-1.0-draft" then "protocol_version='APCC-1.0-draft'"
  else if certificateType ≠ "apcc.commit-certificate" then
    "certificate_type='apcc.commit-certificate'"
  else if encodingProfile ≠ "APCC-CJ1" then "encoding_profile='APCC-CJ1'"
  else if digestAlgorithm ≠ "SHA-256" then "digest_algorithm='SHA-256'"
  else "signature_algorithm='Ed25519'"

def keys : List String :=
  ["protocol_version", "certificate_type", "encoding_profile", "digest_algorithm",
    "signature_algorithm", "authority_store_id", "commit_authority_key_id", "certificate_sequence"]

def fromObject : Py CertificateHeader := do
  expectKeys value keys
  let protocolVersion ← string value "protocol_version"
  let certificateType ← string value "certificate_type"
  let encodingProfile ← string value "encoding_profile"
  let digestAlgorithm ← string value "digest_algorithm"
  let signatureAlgorithm ← string value "signature_algorithm"
  let authorityStoreId ← string value "authority_store_id"
  let commitAuthorityKeyId ← string value "commit_authority_key_id"
  let certificateSequence ← string value "certificate_sequence"
  if valid : supported protocolVersion certificateType encodingProfile digestAlgorithm
      signatureAlgorithm then
    return ⟨protocolVersion, certificateType, encodingProfile, digestAlgorithm,
      signatureAlgorithm, authorityStoreId, commitAuthorityKeyId, certificateSequence, valid⟩
  else
    throw (.valueError ("APCC v1 requires " ++ firstUnsupported protocolVersion certificateType
      encodingProfile digestAlgorithm))

def toObject (v : CertificateHeader) : Json :=
  .obj
    [("authority_store_id", .str v.authorityStoreId),
      ("certificate_sequence", .str v.certificateSequence),
      ("certificate_type", .str v.certificateType),
      ("commit_authority_key_id", .str v.commitAuthorityKeyId),
      ("digest_algorithm", .str v.digestAlgorithm), ("encoding_profile", .str v.encodingProfile),
      ("protocol_version", .str v.protocolVersion),
      ("signature_algorithm", .str v.signatureAlgorithm)]

end CertificateHeader

structure CertificateSubject where
  workflowId : String
  nodeId : String
  attemptId : String
  agentId : String
  actorAuthority : String
  inputDigest : String
  outputDigest : String
  deriving DecidableEq

namespace CertificateSubject

def keys : List String :=
  ["workflow_id", "node_id", "attempt_id", "agent_id", "actor_authority", "input_digest",
    "output_digest"]

def fromObject : Py CertificateSubject := do
  expectKeys value keys
  let workflowId ← string value "workflow_id"
  let nodeId ← string value "node_id"
  let attemptId ← string value "attempt_id"
  let agentId ← string value "agent_id"
  let actorAuthority ← string value "actor_authority"
  let inputDigest ← string value "input_digest"
  let outputDigest ← string value "output_digest"
  return ⟨workflowId, nodeId, attemptId, agentId, actorAuthority, inputDigest, outputDigest⟩

def toObject (v : CertificateSubject) : Json :=
  .obj
    [("actor_authority", .str v.actorAuthority), ("agent_id", .str v.agentId),
      ("attempt_id", .str v.attemptId), ("input_digest", .str v.inputDigest),
      ("node_id", .str v.nodeId), ("output_digest", .str v.outputDigest),
      ("workflow_id", .str v.workflowId)]

end CertificateSubject

structure CertificateContext where
  policyId : String
  policyVersion : String
  policyEpoch : String
  authorityRoot : String
  authorityEpoch : String
  agentRevocationGeneration : String
  workflowRevocationGeneration : String
  workflowEpoch : String
  deriving DecidableEq

namespace CertificateContext

def keys : List String :=
  ["policy_id", "policy_version", "policy_epoch", "authority_root", "authority_epoch",
    "agent_revocation_generation", "workflow_revocation_generation", "workflow_epoch"]

def fromObject : Py CertificateContext := do
  expectKeys value keys
  let policyId ← string value "policy_id"
  let policyVersion ← string value "policy_version"
  let policyEpoch ← string value "policy_epoch"
  let authorityRoot ← string value "authority_root"
  let authorityEpoch ← string value "authority_epoch"
  let agentRevocationGeneration ← string value "agent_revocation_generation"
  let workflowRevocationGeneration ← string value "workflow_revocation_generation"
  let workflowEpoch ← string value "workflow_epoch"
  return ⟨policyId, policyVersion, policyEpoch, authorityRoot, authorityEpoch,
    agentRevocationGeneration, workflowRevocationGeneration, workflowEpoch⟩

def toObject (v : CertificateContext) : Json :=
  .obj
    [("agent_revocation_generation", .str v.agentRevocationGeneration),
      ("authority_epoch", .str v.authorityEpoch), ("authority_root", .str v.authorityRoot),
      ("policy_epoch", .str v.policyEpoch), ("policy_id", .str v.policyId),
      ("policy_version", .str v.policyVersion), ("workflow_epoch", .str v.workflowEpoch),
      ("workflow_revocation_generation", .str v.workflowRevocationGeneration)]

end CertificateContext

structure CertificateDecision where
  outcome : String
  reason : String
  commitId : String
  nonce : String
  committedAtMs : String
  valid : outcome = "committed"
  deriving DecidableEq

namespace CertificateDecision

def keys : List String :=
  ["outcome", "reason", "commit_id", "nonce", "committed_at_ms"]

def fromObject : Py CertificateDecision := do
  expectKeys value keys
  let outcome ← string value "outcome"
  let reason ← string value "reason"
  let commitId ← string value "commit_id"
  let nonce ← string value "nonce"
  let committedAtMs ← string value "committed_at_ms"
  if valid : outcome = "committed" then
    return ⟨outcome, reason, commitId, nonce, committedAtMs, valid⟩
  else throw (.valueError "APCC certificates represent committed outcomes only")

def toObject (v : CertificateDecision) : Json :=
  .obj
    [("commit_id", .str v.commitId), ("committed_at_ms", .str v.committedAtMs),
      ("nonce", .str v.nonce), ("outcome", .str v.outcome), ("reason", .str v.reason)]

end CertificateDecision

structure PredecessorRef where
  workflowId : String
  nodeId : String
  committedNodeVersion : String
  commitId : String
  certificateDigest : String
  outputDigest : String
  deriving DecidableEq

namespace PredecessorRef

def keys : List String :=
  ["workflow_id", "node_id", "committed_node_version", "commit_id", "certificate_digest",
    "output_digest"]

def fromObject : Py PredecessorRef := do
  expectKeys value keys
  let workflowId ← string value "workflow_id"
  let nodeId ← string value "node_id"
  let committedNodeVersion ← string value "committed_node_version"
  let commitId ← string value "commit_id"
  let certificateDigest ← string value "certificate_digest"
  let outputDigest ← string value "output_digest"
  return ⟨workflowId, nodeId, committedNodeVersion, commitId, certificateDigest, outputDigest⟩

def toObject (v : PredecessorRef) : Json :=
  .obj
    [("certificate_digest", .str v.certificateDigest), ("commit_id", .str v.commitId),
      ("committed_node_version", .str v.committedNodeVersion), ("node_id", .str v.nodeId),
      ("output_digest", .str v.outputDigest), ("workflow_id", .str v.workflowId)]

end PredecessorRef

abbrev CertificateBindings.advances (expected committed : String) : Prop :=
  ∃ n ∈ PyInt.int? expected, PyInt.int? committed = some (n + 1)

structure CertificateBindings where
  expectedNodeVersion : String
  committedNodeVersion : String
  predecessorRoot : String
  predecessors : List PredecessorRef
  valid : CertificateBindings.advances expectedNodeVersion committedNodeVersion
  deriving DecidableEq

namespace CertificateBindings

instance (expected committed : String) : Decidable (advances expected committed) :=
  match h : PyInt.int? expected with
  | none => isFalse (by simp [advances, h])
  | some n => decidable_of_iff (PyInt.int? committed = some (n + 1)) (by simp [advances, h])

def keys : List String :=
  ["expected_node_version", "committed_node_version", "predecessor_root", "predecessors"]

def fromObject (value : Fields) : Py CertificateBindings := do
  expectKeys value keys
  let rawPredecessors ← array value "predecessors" "APCC predecessors must be an array"
  let expectedNodeVersion ← string value "expected_node_version"
  let committedNodeVersion ← string value "committed_node_version"
  let predecessorRoot ← string value "predecessor_root"
  let predecessors ← rawPredecessors.mapM fun raw => do PredecessorRef.fromObject (← object raw)
  if valid : advances expectedNodeVersion committedNodeVersion then
    return ⟨expectedNodeVersion, committedNodeVersion, predecessorRoot, predecessors, valid⟩
  else if (PyInt.int? expectedNodeVersion).isNone || (PyInt.int? committedNodeVersion).isNone then
    throw (.valueError "node versions must be decimal strings")
  else throw (.valueError "committed node version must advance exactly once")

def toObject (v : CertificateBindings) : Json :=
  .obj
    [("committed_node_version", .str v.committedNodeVersion),
      ("expected_node_version", .str v.expectedNodeVersion),
      ("predecessor_root", .str v.predecessorRoot),
      ("predecessors", .arr (v.predecessors.map PredecessorRef.toObject))]

end CertificateBindings

structure CertificateSignatures where
  producer : Signature
  policyAuthority : Signature
  authorityRegistry : Signature
  deriving DecidableEq

namespace CertificateSignatures

def keys : List String :=
  ["producer", "policy_authority", "authority_registry"]

def fromObject (value : Fields) : Py CertificateSignatures := do
  expectKeys value keys
  let producer ← nested value "producer" Signature.fromObject
  let policyAuthority ← nested value "policy_authority" Signature.fromObject
  let authorityRegistry ← nested value "authority_registry" Signature.fromObject
  return ⟨producer, policyAuthority, authorityRegistry⟩

def toObject (v : CertificateSignatures) : Json :=
  .obj
    [("authority_registry", v.authorityRegistry.toObject),
      ("policy_authority", v.policyAuthority.toObject), ("producer", v.producer.toObject)]

end CertificateSignatures

structure CertificateEvidence.Literals (producer policy authority : Statement) : Prop where
  producerVersion : producer.get? "protocol_version" = some "APCC-1.0-draft"
  policyVersion : policy.get? "protocol_version" = some "APCC-1.0-draft"
  authorityVersion : authority.get? "protocol_version" = some "APCC-1.0-draft"
  producerType : producer.get? "statement_type" = some "apcc.producer-statement"
  policyType : policy.get? "statement_type" = some "apcc.policy-statement"
  policyDecision : policy.get? "decision" = some "allow"
  authorityType : authority.get? "statement_type" = some "apcc.authority-statement"

structure CertificateEvidence where
  producerStatement : Statement
  producerStatementDigest : String
  policyStatement : Statement
  policyStatementDigest : String
  authorityStatement : Statement
  authorityStatementDigest : String
  literals : CertificateEvidence.Literals producerStatement policyStatement authorityStatement
  deriving DecidableEq

namespace CertificateEvidence

instance (producer policy authority : Statement) : Decidable (Literals producer policy authority) :=
  decidable_of_iff
    (producer.get? "protocol_version" = some "APCC-1.0-draft" ∧
      policy.get? "protocol_version" = some "APCC-1.0-draft" ∧
      authority.get? "protocol_version" = some "APCC-1.0-draft" ∧
      producer.get? "statement_type" = some "apcc.producer-statement" ∧
      policy.get? "statement_type" = some "apcc.policy-statement" ∧
      policy.get? "decision" = some "allow" ∧
      authority.get? "statement_type" = some "apcc.authority-statement")
    ⟨fun ⟨a, b, c, d, e, f, g⟩ => ⟨a, b, c, d, e, f, g⟩,
      fun ⟨a, b, c, d, e, f, g⟩ => ⟨a, b, c, d, e, f, g⟩⟩

def keys : List String :=
  ["producer_statement", "producer_statement_digest", "policy_statement",
    "policy_statement_digest", "authority_statement", "authority_statement_digest"]

def producerKeys : List String :=
  ["protocol_version", "statement_type", "producer_key_id", "workflow_id", "node_id", "attempt_id",
    "agent_id", "actor_authority", "input_digest", "output_digest", "predecessor_root",
    "expected_node_version", "commit_id", "nonce", "issued_at_ms", "expires_at_ms"]

def policyKeys : List String :=
  ["protocol_version", "statement_type", "policy_key_id", "proposal_digest", "decision",
    "policy_id", "policy_version", "policy_epoch", "workflow_id", "node_id", "attempt_id",
    "issued_at_ms", "expires_at_ms"]

def authorityKeys : List String :=
  ["protocol_version", "statement_type", "authority_key_id", "proposal_digest", "agent_id",
    "producer_key_id", "actor_authority", "authority_root", "authority_epoch",
    "agent_revocation_generation", "workflow_revocation_generation", "workflow_epoch",
    "workflow_id", "node_id", "attempt_id", "issued_at_ms", "expires_at_ms"]

def literalError (producer policy authority : Statement) : PyError :=
  if [producer, policy, authority].any (·.get? "protocol_version" ≠ some "APCC-1.0-draft") then
    .valueError "APCC statement protocol version is unsupported"
  else if producer.get? "statement_type" ≠ some "apcc.producer-statement" then
    .valueError "APCC v1 requires statement statement_type='apcc.producer-statement'"
  else if policy.get? "statement_type" ≠ some "apcc.policy-statement" then
    .valueError "APCC v1 requires statement statement_type='apcc.policy-statement'"
  else if policy.get? "decision" ≠ some "allow" then
    .valueError "APCC v1 requires statement decision='allow'"
  else .valueError "APCC v1 requires statement statement_type='apcc.authority-statement'"

def fromObject : Py CertificateEvidence := do
  expectKeys value keys
  let producer ← nested value "producer_statement" pure
  expectKeys producer producerKeys
  let policy ← nested value "policy_statement" pure
  expectKeys policy policyKeys
  let authority ← nested value "authority_statement" pure
  expectKeys authority authorityKeys
  let producerStatement ← Statement.fromFields producer
    (.typeError "producer statement values must be strings")
  let policyStatement ← Statement.fromFields policy
    (.typeError "policy statement values must be strings")
  let authorityStatement ← Statement.fromFields authority
    (.typeError "authority statement values must be strings")
  let producerStatementDigest ← string value "producer_statement_digest"
  let policyStatementDigest ← string value "policy_statement_digest"
  let authorityStatementDigest ← string value "authority_statement_digest"
  if literals : Literals producerStatement policyStatement authorityStatement then
    return ⟨producerStatement, producerStatementDigest, policyStatement, policyStatementDigest,
      authorityStatement, authorityStatementDigest, literals⟩
  else throw (literalError producerStatement policyStatement authorityStatement)

def toObject (v : CertificateEvidence) : Json :=
  .obj
    [("authority_statement", v.authorityStatement.toObject),
      ("authority_statement_digest", .str v.authorityStatementDigest),
      ("policy_statement", v.policyStatement.toObject),
      ("policy_statement_digest", .str v.policyStatementDigest),
      ("producer_statement", v.producerStatement.toObject),
      ("producer_statement_digest", .str v.producerStatementDigest)]

end CertificateEvidence

structure CommitCertificate where
  header : CertificateHeader
  subject : CertificateSubject
  context : CertificateContext
  evidence : CertificateEvidence
  decision : CertificateDecision
  bindings : CertificateBindings
  signatures : CertificateSignatures
  deriving DecidableEq

namespace CommitCertificate

def keys : List String :=
  ["header", "subject", "context", "evidence", "decision", "bindings", "signatures"]

def fromObject (value : Fields) : Py CommitCertificate := do
  expectKeys value keys
  let header ← nested value "header" CertificateHeader.fromObject
  let subject ← nested value "subject" CertificateSubject.fromObject
  let context ← nested value "context" CertificateContext.fromObject
  let evidence ← nested value "evidence" CertificateEvidence.fromObject
  let decision ← nested value "decision" CertificateDecision.fromObject
  let bindings ← nested value "bindings" CertificateBindings.fromObject
  let signatures ← nested value "signatures" CertificateSignatures.fromObject
  return ⟨header, subject, context, evidence, decision, bindings, signatures⟩

def toObject (v : CommitCertificate) : Json :=
  .obj
    [("bindings", v.bindings.toObject), ("context", v.context.toObject),
      ("decision", v.decision.toObject), ("evidence", v.evidence.toObject),
      ("header", v.header.toObject), ("signatures", v.signatures.toObject),
      ("subject", v.subject.toObject)]

end CommitCertificate

end Apcc
