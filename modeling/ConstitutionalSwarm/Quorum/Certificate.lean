import ConstitutionalSwarm.Data.Json
import ConstitutionalSwarm.Quorum.ValidatorSet
import Mathlib.Tactic.NormNum

namespace Quorum

open Raising
open Apcc (Platform)
open Framing (framedDigest)

/-- The policy of a verifier; `__post_init__` refuses the other values. -/
structure CertificateVerificationPolicy where
  committeeSize : Option Int
  thresholdFraction : ℚ
  unsafeAllowSubTwoThirds : Bool
  expectedCommitteeSeed : Option String
  excludedVoterIds : List String
  allowLegacyV1 : Bool
  enforceDomainShare : Bool
  size_pos : ∀ size ∈ committeeSize, 0 < size
  seed_of_size : committeeSize.isSome → ∃ seed ∈ expectedCommitteeSeed, seed ≠ ""
  threshold_mem : 0 < thresholdFraction ∧ thresholdFraction ≤ 1
  threshold_safe : thresholdFraction < 2 / 3 → unsafeAllowSubTwoThirds = true

variable (qc : QuorumCertificate) (set : ValidatorSet) (policy : CertificateVerificationPolicy)

namespace CertificateVerificationPolicy

def standard : CertificateVerificationPolicy where
  committeeSize := none
  thresholdFraction := 2 / 3
  unsafeAllowSubTwoThirds := false
  expectedCommitteeSeed := none
  excludedVoterIds := []
  allowLegacyV1 := false
  enforceDomainShare := false
  size_pos := by simp
  seed_of_size := by simp
  threshold_mem := by norm_num
  threshold_safe := by norm_num

def strengthen (fraction : ℚ) (h : policy.thresholdFraction ≤ fraction ∧ fraction ≤ 1)
    : CertificateVerificationPolicy :=
  { policy with
    thresholdFraction := fraction
    threshold_mem := ⟨lt_of_lt_of_le policy.threshold_mem.1 h.1, h.2⟩
    threshold_safe := fun hlt => policy.threshold_safe (lt_of_le_of_lt h.1 hlt) }

end CertificateVerificationPolicy

structure SignedVote where
  voterId : String
  assignmentId : String
  artifactHash : String
  epoch : ℕ
  signature : Bytes
  publicKeyBytes : Bytes
  deriving DecidableEq

structure QuorumCertificate where
  assignmentId : String
  artifactHash : String
  epoch : ℕ
  votes : List SignedVote
  thresholdWeight : ℚ
  achievedWeight : ℚ
  committeeSeed : String
  deriving DecidableEq

def QuorumCertificate.voterIds : Finset String :=
  (qc.votes.map (·.voterId)).toFinset

def buildVoteMessage (assignmentId artifactHash : String) (epoch : ℕ) : Bytes :=
  (Json.dumps true (.obj [("artifact_hash", .str artifactHash),
    ("assignment_id", .str assignmentId), ("epoch", .int epoch), ("kind", .str "cs-qc-v1"),
    ("v", .int 1)])).encodeUTF8

def voteV2Domain : Bytes :=
  "acgs-swarm/qc-vote/v2".encodeUTF8

variable (vote : SignedVote)

section Messages

variable [Platform]

def buildVoteMessageV2 (assignmentId artifactHash : String) (epoch : ℕ) (voterId : String)
    : Py Bytes := do
  raiseIf (voterId = "") (.valueError "voter_id must be a non-empty string")
  framedDigest voteV2Domain [.text assignmentId, .text artifactHash, .int epoch, .text voterId]

def SignedVote.message : Py Bytes :=
  buildVoteMessageV2 vote.assignmentId vote.artifactHash vote.epoch vote.voterId

def SignedVote.legacyMessage : Bytes :=
  buildVoteMessage vote.assignmentId vote.artifactHash vote.epoch

def voteSignatureValid (registryKey : Bytes) (allowLegacyV1 : Bool) : Bool :=
  match vote.message with
  | .error _ => false
  | .ok message =>
    Platform.ed25519Verify registryKey vote.signature message ||
      (allowLegacyV1 && Platform.ed25519Verify registryKey vote.signature vote.legacyMessage)

end Messages

class Numerics where
  /-- The `rel_tol` that `math.isclose` is called with; 0 where comparisons are exact. -/
  relTol : ℚ
  relTol_nonneg : 0 ≤ relTol
  /-- `format(value, ".6f")`. -/
  fixed6 (value : ℚ) : String
  /-- `float(value).hex()`. -/
  floatHex (value : ℚ) : String

def isClose [Numerics] (a b : ℚ) : Bool :=
  |a - b| ≤ Numerics.relTol * max |a| |b|

def domainShareExceeded [Numerics] (rawDomainWeights : List ℚ) (rawTotal maxFraction : ℚ) : Bool :=
  let ceiling := maxFraction * rawTotal
  rawDomainWeights.any fun w => w > ceiling && !isClose w ceiling

def invalidCertificate (message : String) : PyError :=
  .quorum .invalidCertificate message

structure Counted where
  seenVoters : List String
  legacyKeyOwner : List (Bytes × String)
  perDomain : List (String × ℚ)

section Verify

variable [Platform] [Sortition] [Numerics]

def reconstructCommittee (seed : String) : Py CommitteeSelection := do
  let snapshotSet ← ValidatorSet.ofValidators set.snapshot set.policy
  let eligibleCount := (set.candidates policy.excludedVoterIds).length
  let committeeSize : Int := policy.committeeSize.getD eligibleCount
  raiseIf (committeeSize ≤ 0)
    (invalidCertificate "verification policy has no eligible validators")
  raiseIf (policy.committeeSize.isSome ∧ committeeSize > eligibleCount)
    (invalidCertificate "validator set cannot satisfy pinned committee size")
  select snapshotSet seed committeeSize policy.excludedVoterIds

def claimLegacyKey (owners : List (Bytes × String)) (key : Bytes) (voterId : String)
    : Py (List (Bytes × String)) :=
  if policy.allowLegacyV1 then
    match owners.lookup key with
    | none => .ok (Assoc.set key voterId owners)
    | some other => do
      raiseIf (other ≠ voterId) (invalidCertificate ("voters '" ++ other ++ "' and '" ++ voterId ++
        "' share a registered public key; rejected in legacy v1 mode"))
      return owners
  else .ok owners

def countVote (committeeIds : List String) (counted : Counted) (vote : SignedVote)
    : Py Counted := do
  raiseIf (vote.voterId ∈ counted.seenVoters)
    (invalidCertificate ("duplicate voter '" ++ vote.voterId ++ "' in QC"))
  raiseIf (vote.assignmentId ≠ qc.assignmentId ∨ vote.artifactHash ≠ qc.artifactHash ∨
    vote.epoch ≠ qc.epoch) (invalidCertificate "vote/QC subject mismatch")
  match set.get vote.voterId with
  | none => throw (invalidCertificate ("voter '" ++ vote.voterId ++ "' not in validator set"))
  | some ident =>
    raiseIf (vote.voterId ∉ committeeIds)
      (invalidCertificate ("voter '" ++ vote.voterId ++ "' is not a member of committee"))
    match ident.publicKeyBytes with
    | none => throw (invalidCertificate
        ("registered public key missing for voter '" ++ vote.voterId ++ "'"))
    | some key =>
      raiseIf (vote.publicKeyBytes ≠ key) (invalidCertificate
        ("embedded public key for voter '" ++ vote.voterId ++ "' does not match registry"))
      let legacyKeyOwner ← claimLegacyKey policy counted.legacyKeyOwner key vote.voterId
      ensure (voteSignatureValid vote key policy.allowLegacyV1) (invalidCertificate
        ("signature from '" ++ vote.voterId ++ "' failed against registry key"))
      return {
        seenVoters := counted.seenVoters ++ [vote.voterId]
        legacyKeyOwner
        perDomain := Tally.add counted.perDomain (set.policy.resolveDomain ident)
          ident.effectiveWeight }

def checkWeight (committee : List ValidatorIdentity) (perDomain : List (String × ℚ))
    (checkMetadata : Bool) : Py (ℚ × ℚ) := do
  let rawCommitteeWeight := rawWeight committee
  raiseIf (rawCommitteeWeight ≤ 0)
    (invalidCertificate "committee weight must be finite and positive")
  raiseIf (policy.enforceDomainShare ∧ domainShareExceeded
      ((domainWeights set.policy committee).map Prod.snd) rawCommitteeWeight set.policy.maxFraction)
    (invalidCertificate "a single fault domain exceeds max_fraction of raw committee weight")
  let recomputed := Tally.capped (set.policy.maxFraction * rawCommitteeWeight) perDomain
  let policyThreshold := policy.thresholdFraction * rawCommitteeWeight
  raiseIf (checkMetadata ∧ (qc.thresholdWeight ≤ 0 ∨ (qc.thresholdWeight > rawCommitteeWeight ∧
      ¬isClose qc.thresholdWeight rawCommitteeWeight)))
    (invalidCertificate "stored threshold is outside canonical bounds")
  raiseIf (recomputed < policyThreshold ∧ ¬isClose recomputed policyThreshold)
    (.quorum .insufficientQuorum ("achieved capped weight " ++ Numerics.fixed6 recomputed ++
      " < trusted threshold " ++ Numerics.fixed6 policyThreshold))
  raiseIf (checkMetadata ∧ ¬isClose qc.achievedWeight recomputed)
    (invalidCertificate "stored achieved weight does not match verifier result")
  return (recomputed, policyThreshold)

def committeeIdentities (members : List String)
    : Py (List ValidatorIdentity) :=
  members.mapM fun id =>
    match set.get id with
    | some ident => .ok ident
    | none => .error (invalidCertificate ("committee member '" ++ id ++ "' not in validator set"))

def expectedSelection (seed : String) (expectedCommittee : Option CommitteeSelection)
    : Py CommitteeSelection := do
  raiseIf (policy.expectedCommitteeSeed.any (· ≠ seed))
    (invalidCertificate "committee seed does not match verifier policy")
  let committee ← reconstructCommittee set policy seed
  raiseIf (expectedCommittee.any (·.members ≠ committee.members))
    (invalidCertificate "provided committee does not match deterministic selection")
  return committee

def weighVotes (committee : CommitteeSelection) (checkMetadata : Bool) : Py (ℚ × ℚ) := do
  raiseIf (committee.seed ≠ qc.committeeSeed) (invalidCertificate "committee seed mismatch")
  raiseIf (¬committee.members.Nodup) (invalidCertificate "committee contains duplicate members")
  let counted ← qc.votes.foldlM (countVote qc set policy committee.members) ⟨[], [], []⟩
  let identities ← committeeIdentities set committee.members
  checkWeight qc set policy identities counted.perDomain checkMetadata

def verifyCertificateCore (expectedCommittee : Option CommitteeSelection) (checkMetadata : Bool)
    : Py (ℚ × ℚ) := do
  raiseIf (qc.votes = []) (invalidCertificate "empty QC")
  let committee ← expectedSelection set policy qc.committeeSeed expectedCommittee
  weighVotes qc set policy committee checkMetadata

/-- The `verification_policy` that `build_certificate` uses when it is given none. -/
def builderPolicy (committee : CommitteeSelection) (thresholdFraction : ℚ)
    : Py CertificateVerificationPolicy :=
  if hsize : committee.members = [] then
    .error (.valueError "committee_size must be positive when provided")
  else if hseed : committee.seed = "" then
    .error (.valueError "an explicit committee_size requires a non-empty expected seed")
  else if hmem : 0 < thresholdFraction ∧ thresholdFraction ≤ 1 then
    if hsafe : 2 / 3 ≤ thresholdFraction then
      .ok { CertificateVerificationPolicy.standard with
        committeeSize := some committee.members.length
        thresholdFraction
        expectedCommitteeSeed := some committee.seed
        size_pos := by simpa using List.length_pos_iff.mpr hsize
        seed_of_size := by simpa using hseed
        threshold_mem := hmem
        threshold_safe := fun hlt => absurd hsafe hlt.not_ge }
    else .error (.valueError
      "threshold_fraction below 2/3 requires unsafe_allow_sub_two_thirds=True")
  else .error (.valueError "threshold_fraction must be finite and in (0, 1]")

def provisional (first : SignedVote) (votes : List SignedVote) (seed : String)
    : QuorumCertificate where
  assignmentId := first.assignmentId
  artifactHash := first.artifactHash
  epoch := first.epoch
  votes := Smallest.sortBy (·.voterId) votes
  thresholdWeight := 0
  achievedWeight := 0
  committeeSeed := seed

def buildCertificate (votes : List SignedVote) (committee : CommitteeSelection)
    (thresholdFraction : ℚ) (verificationPolicy : Option CertificateVerificationPolicy)
    : Py QuorumCertificate :=
  match votes with
  | [] => .error (.quorum .insufficientQuorum "no votes supplied")
  | first :: rest => do
    let qc := provisional first (first :: rest) committee.seed
    let policy ← (verificationPolicy.map .ok).getD (builderPolicy committee thresholdFraction)
    raiseIf (policy.committeeSize ≠ some (committee.members.length : Int))
      (invalidCertificate "builder policy committee size does not match committee")
    let (achievedWeight, thresholdWeight) ←
      verifyCertificateCore qc set policy (some committee) false
    return { qc with thresholdWeight, achievedWeight }

def strengthenedPolicy : Option ℚ → Py CertificateVerificationPolicy
  | none => .ok policy
  | some fraction =>
    if h : policy.thresholdFraction ≤ fraction ∧ fraction ≤ 1 then
      .ok (policy.strengthen fraction h)
    else .error (.valueError "threshold_fraction must be finite and strengthen policy")

def verifyCertificate (policy : Option CertificateVerificationPolicy)
    (thresholdFraction expectedThresholdWeight : Option ℚ) : Py Unit := do
  let policy ← strengthenedPolicy (policy.getD .standard) thresholdFraction
  let (achieved, _) ← verifyCertificateCore qc set policy none true
  match expectedThresholdWeight with
  | none => return ()
  | some expected =>
    raiseIf (expected ≤ 0)
      (.valueError "expected_threshold_weight must be finite and positive")
    raiseIf (achieved < expected ∧ ¬isClose achieved expected)
      (.quorum .insufficientQuorum ("achieved weight " ++ Numerics.fixed6 achieved ++
        " below strengthened threshold " ++ Numerics.fixed6 expected))

structure ConflictEvidence where
  qcA : QuorumCertificate
  qcB : QuorumCertificate
  equivocators : Finset String
  deriving DecidableEq

def detectConflict (qcA qcB : QuorumCertificate) (set : ValidatorSet)
    (policy policyA policyB : Option CertificateVerificationPolicy)
    : Py (Option ConflictEvidence) := do
  let commonPolicy := policy.getD .standard
  let _ ← verifyCertificateCore qcA set (policyA.getD commonPolicy) none true
  let _ ← verifyCertificateCore qcB set (policyB.getD commonPolicy) none true
  if qcA.assignmentId ≠ qcB.assignmentId then return none
  if qcA.epoch ≠ qcB.epoch then return none
  if qcA.artifactHash = qcB.artifactHash then return none
  return some ⟨qcA, qcB, qcA.voterIds ∩ qcB.voterIds⟩

end Verify

end Quorum
