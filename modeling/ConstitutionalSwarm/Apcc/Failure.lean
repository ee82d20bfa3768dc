import ConstitutionalSwarm.Data.Traverse

namespace Apcc

export Except (bind_eq_ok exists_unit map_eq_ok pure_inj)

inductive FailureCode where
  | malformedJson
  | duplicateField
  | unknownField
  | missingField
  | caseMismatchedField
  | wrongJsonType
  | invalidDecimalString
  | trailingBytes
  | noncanonicalEncoding
  | invalidUnicode
  | invalidBase64url
  | sizeLimitExceeded
  | depthLimitExceeded
  | duplicateSetMember
  | unknownProtocolVersion
  | unsupportedCertificateType
  | unsupportedEncoding
  | unsupportedDigestAlgorithm
  | unsupportedSignatureAlgorithm
  | unsupportedStatementType
  | statementDigestMismatch
  | proposalDigestMismatch
  | invalidProducerSignature
  | invalidPolicySignature
  | invalidAuthoritySignature
  | invalidCommitSeal
  | unknownKey
  | keyIdMismatch
  | attestationExpired
  | attestationNotYetValid
  | subjectMismatch
  | actorAuthorityMismatch
  | inputDigestMismatch
  | outputDigestMismatch
  | attemptMismatch
  | crossWorkflowReplay
  | crossNodeReplay
  | crossAttemptReplay
  | stalePolicyEpoch
  | staleAuthorityEpoch
  | staleWorkflowEpoch
  | actorRevoked
  | workflowRevoked
  | invalidPredecessor
  | predecessorRootMismatch
  | predecessorReplaced
  | crossWorkflowPredecessor
  | nodeVersionConflict
  | illegalNodeState
  | resultNotStaged
  | stagedResultConflict
  | quarantined
  | nonceReplay
  | commitIdEquivocation
  | authorityFromStagingDenied
  | authorityFromRecoveryDenied
  | authorityFromOutboxDenied
  | legacyStatusNotAuthoritative
  | storeUnavailable
  | transactionAborted
  | serializationRetryExhausted
  | outboxDeliveryPending
  | authorityStatusRequired
  | authorityStatusNonceMismatch
  | authorityStatusCertificateMismatch
  | authorityStatusExpired
  | authorityStatusInvalidSignature
  | authorityStatusRevoked
  | authorityStatusSuperseded
  | authorityStatusRollback
  deriving DecidableEq

def FailureCode.value : FailureCode → String
  | .malformedJson => "MALFORMED_JSON"
  | .duplicateField => "DUPLICATE_FIELD"
  | .unknownField => "UNKNOWN_FIELD"
  | .missingField => "MISSING_FIELD"
  | .caseMismatchedField => "CASE_MISMATCHED_FIELD"
  | .wrongJsonType => "WRONG_JSON_TYPE"
  | .invalidDecimalString => "INVALID_DECIMAL_STRING"
  | .trailingBytes => "TRAILING_BYTES"
  | .noncanonicalEncoding => "NONCANONICAL_ENCODING"
  | .invalidUnicode => "INVALID_UNICODE"
  | .invalidBase64url => "INVALID_BASE64URL"
  | .sizeLimitExceeded => "SIZE_LIMIT_EXCEEDED"
  | .depthLimitExceeded => "DEPTH_LIMIT_EXCEEDED"
  | .duplicateSetMember => "DUPLICATE_SET_MEMBER"
  | .unknownProtocolVersion => "UNKNOWN_PROTOCOL_VERSION"
  | .unsupportedCertificateType => "UNSUPPORTED_CERTIFICATE_TYPE"
  | .unsupportedEncoding => "UNSUPPORTED_ENCODING"
  | .unsupportedDigestAlgorithm => "UNSUPPORTED_DIGEST_ALGORITHM"
  | .unsupportedSignatureAlgorithm => "UNSUPPORTED_SIGNATURE_ALGORITHM"
  | .unsupportedStatementType => "UNSUPPORTED_STATEMENT_TYPE"
  | .statementDigestMismatch => "STATEMENT_DIGEST_MISMATCH"
  | .proposalDigestMismatch => "PROPOSAL_DIGEST_MISMATCH"
  | .invalidProducerSignature => "INVALID_PRODUCER_SIGNATURE"
  | .invalidPolicySignature => "INVALID_POLICY_SIGNATURE"
  | .invalidAuthoritySignature => "INVALID_AUTHORITY_SIGNATURE"
  | .invalidCommitSeal => "INVALID_COMMIT_SEAL"
  | .unknownKey => "UNKNOWN_KEY"
  | .keyIdMismatch => "KEY_ID_MISMATCH"
  | .attestationExpired => "ATTESTATION_EXPIRED"
  | .attestationNotYetValid => "ATTESTATION_NOT_YET_VALID"
  | .subjectMismatch => "SUBJECT_MISMATCH"
  | .actorAuthorityMismatch => "ACTOR_AUTHORITY_MISMATCH"
  | .inputDigestMismatch => "INPUT_DIGEST_MISMATCH"
  | .outputDigestMismatch => "OUTPUT_DIGEST_MISMATCH"
  | .attemptMismatch => "ATTEMPT_MISMATCH"
  | .crossWorkflowReplay => "CROSS_WORKFLOW_REPLAY"
  | .crossNodeReplay => "CROSS_NODE_REPLAY"
  | .crossAttemptReplay => "CROSS_ATTEMPT_REPLAY"
  | .stalePolicyEpoch => "STALE_POLICY_EPOCH"
  | .staleAuthorityEpoch => "STALE_AUTHORITY_EPOCH"
  | .staleWorkflowEpoch => "STALE_WORKFLOW_EPOCH"
  | .actorRevoked => "ACTOR_REVOKED"
  | .workflowRevoked => "WORKFLOW_REVOKED"
  | .invalidPredecessor => "INVALID_PREDECESSOR"
  | .predecessorRootMismatch => "PREDECESSOR_ROOT_MISMATCH"
  | .predecessorReplaced => "PREDECESSOR_REPLACED"
  | .crossWorkflowPredecessor => "CROSS_WORKFLOW_PREDECESSOR"
  | .nodeVersionConflict => "NODE_VERSION_CONFLICT"
  | .illegalNodeState => "ILLEGAL_NODE_STATE"
  | .resultNotStaged => "RESULT_NOT_STAGED"
  | .stagedResultConflict => "STAGED_RESULT_CONFLICT"
  | .quarantined => "QUARANTINED"
  | .nonceReplay => "NONCE_REPLAY"
  | .commitIdEquivocation => "COMMIT_ID_EQUIVOCATION"
  | .authorityFromStagingDenied => "AUTHORITY_FROM_STAGING_DENIED"
  | .authorityFromRecoveryDenied => "AUTHORITY_FROM_RECOVERY_DENIED"
  | .authorityFromOutboxDenied => "AUTHORITY_FROM_OUTBOX_DENIED"
  | .legacyStatusNotAuthoritative => "LEGACY_STATUS_NOT_AUTHORITATIVE"
  | .storeUnavailable => "STORE_UNAVAILABLE"
  | .transactionAborted => "TRANSACTION_ABORTED"
  | .serializationRetryExhausted => "SERIALIZATION_RETRY_EXHAUSTED"
  | .outboxDeliveryPending => "OUTBOX_DELIVERY_PENDING"
  | .authorityStatusRequired => "AUTHORITY_STATUS_REQUIRED"
  | .authorityStatusNonceMismatch => "AUTHORITY_STATUS_NONCE_MISMATCH"
  | .authorityStatusCertificateMismatch => "AUTHORITY_STATUS_CERTIFICATE_MISMATCH"
  | .authorityStatusExpired => "AUTHORITY_STATUS_EXPIRED"
  | .authorityStatusInvalidSignature => "AUTHORITY_STATUS_INVALID_SIGNATURE"
  | .authorityStatusRevoked => "AUTHORITY_STATUS_REVOKED"
  | .authorityStatusSuperseded => "AUTHORITY_STATUS_SUPERSEDED"
  | .authorityStatusRollback => "AUTHORITY_STATUS_ROLLBACK"

def FailureCode.all : List FailureCode :=
  [.malformedJson, .duplicateField, .unknownField, .missingField, .caseMismatchedField,
    .wrongJsonType, .invalidDecimalString, .trailingBytes, .noncanonicalEncoding, .invalidUnicode,
    .invalidBase64url, .sizeLimitExceeded, .depthLimitExceeded, .duplicateSetMember,
    .unknownProtocolVersion, .unsupportedCertificateType, .unsupportedEncoding,
    .unsupportedDigestAlgorithm, .unsupportedSignatureAlgorithm, .unsupportedStatementType,
    .statementDigestMismatch, .proposalDigestMismatch, .invalidProducerSignature,
    .invalidPolicySignature, .invalidAuthoritySignature, .invalidCommitSeal, .unknownKey,
    .keyIdMismatch, .attestationExpired, .attestationNotYetValid, .subjectMismatch,
    .actorAuthorityMismatch, .inputDigestMismatch, .outputDigestMismatch, .attemptMismatch,
    .crossWorkflowReplay, .crossNodeReplay, .crossAttemptReplay, .stalePolicyEpoch,
    .staleAuthorityEpoch, .staleWorkflowEpoch, .actorRevoked, .workflowRevoked,
    .invalidPredecessor, .predecessorRootMismatch, .predecessorReplaced,
    .crossWorkflowPredecessor, .nodeVersionConflict, .illegalNodeState, .resultNotStaged,
    .stagedResultConflict, .quarantined, .nonceReplay, .commitIdEquivocation,
    .authorityFromStagingDenied, .authorityFromRecoveryDenied, .authorityFromOutboxDenied,
    .legacyStatusNotAuthoritative, .storeUnavailable, .transactionAborted,
    .serializationRetryExhausted, .outboxDeliveryPending, .authorityStatusRequired,
    .authorityStatusNonceMismatch, .authorityStatusCertificateMismatch, .authorityStatusExpired,
    .authorityStatusInvalidSignature, .authorityStatusRevoked, .authorityStatusSuperseded,
    .authorityStatusRollback]

def FailureCode.ofValue? (value : String) : Option FailureCode :=
  all.find? (·.value = value)

theorem FailureCode.ofValue?_value_isSome (code : FailureCode) : (ofValue? code.value).isSome := by
  have hmem : code ∈ all := by cases code <;> decide
  rw [ofValue?, List.find?_isSome]
  exact ⟨code, hmem, by simp⟩

theorem FailureCode.value_eq_nodeVersionConflict {code : FailureCode}
    : code.value = nodeVersionConflict.value ↔ code = .nodeVersionConflict := by
  cases code <;> decide

theorem FailureCode.value_eq_nonceReplay {code : FailureCode}
    : code.value = nonceReplay.value ↔ code = .nonceReplay := by
  cases code <;> decide

inductive MeshFailure where
  | insufficientPeers
  | duplicateVote
  | unauthorizedVoter
  | invalidVoteSignature
  | assignmentSettled
  | recoveredAssignment
  | meshHalted
  | meshSnapshotStale
  | settlementPersistence
  | remoteVoteReplay
  | meshCapacity
  | duplicateSettlement
  deriving DecidableEq

inductive QuorumFailure where
  | invalidCertificate
  | insufficientQuorum
  | invalidTransition
  | epochMismatch
  | jointQuorumNotMet
  | driftBudgetExceeded
  deriving DecidableEq

inductive PyError where
  | valueError (message : String)
  | codecError (code : FailureCode)
  | typeError (message : String)
  | keyError (key : String)
  | indexError (message : String)
  | permissionError (message : String)
  /-- `sqlite3.IntegrityError`: a constraint or a trigger of the schema. -/
  | integrityError
  /-- The other exceptions of `sqlite3`: the database did not serve a statement. -/
  | operationalError (message : String)
  /-- `GovernanceBypassDenied`, a `PermissionError`. -/
  | bypassDenied (message : String)
  | runtimeError (message : String)
  | attributeError (message : String)
  | overflowError (message : String)
  | osError (message : String)
  | mesh (failure : MeshFailure) (message : String)
  | quorum (failure : QuorumFailure) (message : String)
  deriving DecidableEq

def PyError.isSqlError : PyError → Bool
  | .integrityError | .operationalError _ => true
  | _ => false

abbrev Py := Except PyError

def raiseIf (condition : Bool) (error : PyError) : Py Unit :=
  if condition then .error error else .ok ()

def ensure (condition : Bool) (error : PyError) : Py Unit :=
  raiseIf (!condition) error

@[simp]
theorem ensure_true (error : PyError) : ensure true error = .ok () := rfl

@[simp]
theorem ensure_false (error : PyError) : ensure false error = .error error := rfl

@[simp]
theorem ok_bind {α β : Type} (a : α) (f : α → Py β) : (Except.ok a >>= f) = f a := rfl

@[simp]
theorem error_bind {α β : Type} (e : PyError) (f : α → Py β)
    : (Except.error e >>= f) = .error e := rfl

@[simp]
theorem pure_eq_ok {α : Type} (a : α) : (pure a : Py α) = .ok a := rfl

@[simp]
theorem throw_eq_error {α : Type} (e : PyError) : (throw e : Py α) = .error e := rfl

@[simp]
theorem raiseIf_eq_ok
    : raiseIf condition error = .ok u ↔ condition = false := by
  cases condition <;> simp [raiseIf]

@[simp]
theorem ensure_eq_ok
    : ensure condition error = .ok u ↔ condition := by
  simp [ensure]

end Apcc

namespace Raising

export Apcc (Py PyError raiseIf ensure raiseIf_eq_ok ensure_eq_ok pure_inj pure_eq_ok bind_eq_ok
  ok_bind exists_unit map_eq_ok)

end Raising
