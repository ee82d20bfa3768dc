import ConstitutionalSwarm.Data.Hex
import ConstitutionalSwarm.Quorum.Certificate
import Mathlib.Data.Rat.Floor

namespace Quorum

open Raising
open Apcc (Platform)
open Framing (framedDigest)

def invalidTransition (message : String) : PyError :=
  .quorum .invalidTransition message

def domain : Bytes :=
  "acgs-swarm/epoch-reconfig/v2".encodeUTF8

def toBytes (width n : ℕ) : Py Bytes :=
  match BigEndian.toBytes width n with
  | some raw => .ok raw
  | none => .error (.overflowError "int too big to convert")

def lengthPrefixed (value : Bytes) : Py Bytes := do
  let length ← toBytes 4 value.length
  return length ++ value

def lengthPrefixedAll : List Bytes → Py Bytes
  | [] => .ok []
  | value :: values => do
    let first ← lengthPrefixed value
    let rest ← lengthPrefixedAll values
    return first ++ rest

def versionMessage (epoch : ℕ) (rules : List String) (parentDigest : Bytes) : Py Bytes := do
  raiseIf (¬epoch < 2 ^ 64) (.valueError ("epoch must be non-negative, got " ++ toString epoch))
  raiseIf (parentDigest.length ∉ [0, 32])
    (.valueError ("parent_digest must be 0 or 32 bytes, got " ++ toString parentDigest.length))
  let epochBytes ← toBytes 8 epoch
  let parentLength ← toBytes 1 parentDigest.length
  let count ← toBytes 4 rules.length
  let body ← lengthPrefixedAll (rules.map (·.encodeUTF8))
  return domain ++ "version".encodeUTF8 ++ epochBytes ++ parentLength ++ parentDigest ++ count ++
    body

/-- A version; `__post_init__` refuses the other values. -/
structure ConstitutionVersion where
  epoch : ℕ
  rules : List String
  parentDigest : Bytes
  epoch_lt : epoch < 2 ^ 64
  rules_sorted : rules.Pairwise (· ≤ ·)
  rules_nodup : rules.Nodup
  length_parent : parentDigest.length ∈ [0, 32]
  deriving DecidableEq

def evaluateDrift (prior proposed : ConstitutionVersion) : ℕ :=
  (proposed.rules.toFinset \ prior.rules.toFinset).card +
    (prior.rules.toFinset \ proposed.rules.toFinset).card

structure DriftBudget where
  maxRuleDelta : ℕ
  deriving DecidableEq

def checkKeys : List Bytes → List ValidatorIdentity → Py Unit
  | _, [] => .ok ()
  | seen, identity :: rest =>
    match identity.publicKeyBytes with
    | none => checkKeys seen rest
    | some key => do
      raiseIf (key ∈ seen) (invalidTransition "validator registry reuses a public key")
      checkKeys (key :: seen) rest

variable (set : ValidatorSet)

def validatedSnapshot : Py (List ValidatorIdentity) := do
  checkKeys [] set.snapshot
  return set.snapshot

def UntaggedPolicy.value : UntaggedPolicy → String
  | .strict => "strict"
  | .lenient => "lenient"

section Digests

variable [Platform]

def ConstitutionVersion.digest (version : ConstitutionVersion) : Py Bytes := do
  let message ← versionMessage version.epoch version.rules version.parentDigest
  return Platform.sha256 message

section Registry

variable [Numerics]

def policyFields (policy : FaultDomainPolicy) : List Bytes :=
  ["validator-set".encodeUTF8, (Numerics.floatHex policy.maxFraction).encodeUTF8,
    policy.untaggedPolicy.value.encodeUTF8]

def identityFields (identity : ValidatorIdentity) : List Bytes :=
  [identity.agentId.encodeUTF8, (Numerics.floatHex identity.stake).encodeUTF8,
    (Numerics.floatHex identity.reputation).encodeUTF8, identity.faultDomain.encodeUTF8,
    identity.publicKeyBytes.getD []]

def validatorSetMessage (set : ValidatorSet) : Py Bytes := do
  let snapshot ← validatedSnapshot set
  let header ← lengthPrefixedAll (policyFields set.policy)
  let count ← toBytes 4 snapshot.length
  let body ← lengthPrefixedAll (snapshot.flatMap identityFields)
  return domain ++ header ++ count ++ body

def computeValidatorSetDigest (set : ValidatorSet) : Py Bytes := do
  let message ← validatorSetMessage set
  return Platform.sha256 message

end Registry

structure AmendmentProposal where
  prior : ConstitutionVersion
  proposed : ConstitutionVersion
  driftBudget : DriftBudget
  bindingDigest : Bytes
  oldValidatorSetDigest : Bytes
  newValidatorSetDigest : Bytes
  epoch_eq : proposed.epoch = prior.epoch + 1
  digest_prior : prior.digest = .ok proposed.parentDigest
  length_binding : bindingDigest.length ∈ [0, 32]
  length_old : oldValidatorSetDigest.length ∈ [0, 32]
  length_new : newValidatorSetDigest.length ∈ [0, 32]

variable (proposal : AmendmentProposal)

def AmendmentProposal.drift : ℕ :=
  evaluateDrift proposal.prior proposal.proposed

def WellSized (qc : QuorumCertificate) : Prop :=
  ∀ vote ∈ qc.votes, vote.signature.length = 64 ∧ vote.publicKeyBytes.length = 32

def QuorumCertificate.subject (qc : QuorumCertificate) : String × String × ℕ :=
  (qc.assignmentId, qc.artifactHash, qc.epoch)

structure TransitionCertificate where
  proposal : AmendmentProposal
  oldSideCertificate : QuorumCertificate
  newSideCertificate : QuorumCertificate
  old_wellSized : WellSized oldSideCertificate
  new_wellSized : WellSized newSideCertificate

def transitionSubjectDomain : Bytes :=
  "acgs-swarm/epoch-reconfig/transition/v3".encodeUTF8

def AmendmentProposal.parts : Py (List Framing.Part) := do
  let prior ← proposal.prior.digest
  let proposed ← proposal.proposed.digest
  return [.bytes prior, .bytes proposed, .int proposal.driftBudget.maxRuleDelta,
    .int proposal.proposed.epoch, .bytes proposal.bindingDigest,
    .bytes proposal.oldValidatorSetDigest, .bytes proposal.newValidatorSetDigest]

def transitionSubjectDigest : Py Bytes := do
  let parts ← proposal.parts
  framedDigest transitionSubjectDomain parts

def transitionAssignmentId : String :=
  "constitutional-transition-v3"

def transitionVoteSubject : Py (String × String × ℕ) := do
  let digest ← transitionSubjectDigest proposal
  return (transitionAssignmentId, Hex.encode digest, proposal.proposed.epoch)

end Digests

structure TransitionVerificationPolicy where
  oldCertificate : CertificateVerificationPolicy
  newCertificate : CertificateVerificationPolicy
  maxRuleDelta : ℕ

def rawStake (validators : List ValidatorIdentity) : ℚ :=
  (validators.map (·.stake)).sum

def computeTransitionThreshold (thresholdFraction : ℚ) : Py Int := do
  raiseIf (¬(0 < thresholdFraction ∧ thresholdFraction ≤ 1))
    (invalidTransition "threshold_fraction must be finite and in (0, 1]")
  let snapshot ← validatedSnapshot set
  raiseIf (rawStake snapshot ≤ 0)
    (invalidTransition "validator side must have positive finite raw stake")
  return ⌈thresholdFraction * rawStake snapshot⌉

def signedRawStake (qc : QuorumCertificate) (set : ValidatorSet) : Py ℚ := do
  let stakes ← qc.votes.mapM fun vote =>
    match set.get vote.voterId with
    | some identity => Except.ok identity.stake
    | none => Except.error (Apcc.PyError.keyError vote.voterId)
  return stakes.sum

section Verify

variable [Platform] [Sortition] [Numerics]

def validatePolicyCanRatify (side : String) (qc : QuorumCertificate) (set : ValidatorSet)
    (policy : CertificateVerificationPolicy) (expectedThreshold : Int) : Py Unit := do
  let snapshot ← validatedSnapshot set
  let eligibleCount := (snapshot.filter (·.agentId ∉ policy.excludedVoterIds)).length
  let committeeSize : Int := policy.committeeSize.getD eligibleCount
  raiseIf (committeeSize ≤ 0 ∨ committeeSize > eligibleCount)
    (invalidTransition (side ++ "-side policy can never ratify: no viable pinned committee"))
  let committee ← select set (policy.expectedCommitteeSeed.getD qc.committeeSeed) committeeSize
    policy.excludedVoterIds
  raiseIf (expectedThreshold > committee.weight ∧ ¬isClose expectedThreshold committee.weight)
    (invalidTransition (side ++ "-side policy can never ratify: full-side raw-stake threshold " ++
      toString expectedThreshold ++ " exceeds selected effective capacity " ++
      Numerics.fixed6 committee.weight))

def reportSide (side : String) : Py Unit → Py Unit
  | .error (.quorum .invalidCertificate message)
  | .error (.quorum .insufficientQuorum message) =>
    .error (.quorum .jointQuorumNotMet
      (side ++ "-side certificate verification failed: " ++ message))
  | result => result

def verifySide (side : String) (qc : QuorumCertificate) (set : ValidatorSet)
    (policy : CertificateVerificationPolicy) : Py Unit := do
  let expectedThreshold ← computeTransitionThreshold set policy.thresholdFraction
  validatePolicyCanRatify side qc set policy expectedThreshold
  raiseIf (qc.thresholdWeight ≠ expectedThreshold)
    (invalidTransition (side ++ "-side embedded threshold does not match verifier policy"))
  reportSide side (verifyCertificate qc set (some policy) none none)
  let signedStake ← signedRawStake qc set
  raiseIf (signedStake < expectedThreshold) (.quorum .jointQuorumNotMet
    (side ++ "-side full-side raw stake " ++ Numerics.fixed6 signedStake ++
      " is below threshold " ++ toString expectedThreshold))

def snapshotSet : Py ValidatorSet := do
  let snapshot ← validatedSnapshot set
  ValidatorSet.ofValidators snapshot set.policy

def verifyTransition (certificate : TransitionCertificate) (oldValidatorSet : ValidatorSet)
    (newValidatorSet : ValidatorSet) (currentVersion : ConstitutionVersion)
    (policy : TransitionVerificationPolicy) : Py Unit := do
  let proposal := certificate.proposal
  let oldSnapshot ← snapshotSet oldValidatorSet
  let newSnapshot ← snapshotSet newValidatorSet
  raiseIf (proposal.prior ≠ currentVersion)
    (.quorum .epochMismatch "proposal prior does not match trusted current version")
  raiseIf (proposal.oldValidatorSetDigest = [] ∨ proposal.newValidatorSetDigest = [])
    (invalidTransition "transition proposal must bind both validator registries")
  let oldDigest ← computeValidatorSetDigest oldSnapshot
  raiseIf (proposal.oldValidatorSetDigest ≠ oldDigest)
    (invalidTransition "old validator registry commitment mismatch")
  let newDigest ← computeValidatorSetDigest newSnapshot
  raiseIf (proposal.newValidatorSetDigest ≠ newDigest)
    (invalidTransition "new validator registry commitment mismatch")
  raiseIf (proposal.driftBudget.maxRuleDelta ≠ policy.maxRuleDelta)
    (invalidTransition "embedded drift budget does not match verifier policy")
  raiseIf (proposal.drift > policy.maxRuleDelta)
    (.quorum .driftBudgetExceeded ("rule drift " ++ toString proposal.drift ++
      " exceeds verifier budget " ++ toString policy.maxRuleDelta))
  let subject ← transitionVoteSubject proposal
  raiseIf (certificate.oldSideCertificate.subject ≠ subject)
    (invalidTransition "old-side certificate subject mismatch")
  raiseIf (certificate.newSideCertificate.subject ≠ subject)
    (invalidTransition "new-side certificate subject mismatch")
  verifySide "old" certificate.oldSideCertificate oldSnapshot policy.oldCertificate
  verifySide "new" certificate.newSideCertificate newSnapshot policy.newCertificate

end Verify

end Quorum
