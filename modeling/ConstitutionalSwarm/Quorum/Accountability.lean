import ConstitutionalSwarm.Quorum.Committee
import Mathlib.Tactic.Linarith

namespace Quorum

open Raising List
open Apcc (Platform)

def weightOf (set : ValidatorSet) (agentId : String) : ℚ :=
  ((set.get agentId).map (·.effectiveWeight)).getD 0

theorem weightOf_nonneg (set : ValidatorSet) (agentId : String) : 0 ≤ weightOf set agentId := by
  unfold weightOf
  cases set.get agentId with
  | none => exact le_refl 0
  | some v => exact v.effectiveWeight_nonneg

theorem CertificateVerificationPolicy.two_thirds_le (policy : CertificateVerificationPolicy)
    (h : policy.unsafeAllowSubTwoThirds = false) : 2 / 3 ≤ policy.thresholdFraction := by
  by_contra hlt
  have hunsafe := policy.threshold_safe (not_le.mp hlt)
  rw [h] at hunsafe
  cases hunsafe

variable [Platform] {set : ValidatorSet} {policy : CertificateVerificationPolicy}
  {qc qcA qcB : QuorumCertificate}

structure Accepted (qc : QuorumCertificate) (set : ValidatorSet)
    (policy : CertificateVerificationPolicy) (members : List String) (vote : SignedVote)
    : Prop where
  subject : vote.assignmentId = qc.assignmentId ∧ vote.artifactHash = qc.artifactHash ∧
    vote.epoch = qc.epoch
  member : vote.voterId ∈ members
  signed : ∃ ident key, set.get vote.voterId = some ident ∧ ident.publicKeyBytes = some key ∧
    voteSignatureValid vote key policy.allowLegacyV1 = true

theorem countVote_eq_ok (h : countVote qc set policy members counted vote = .ok counted')
    : vote.voterId ∉ counted.seenVoters ∧ Accepted qc set policy members vote ∧
      counted'.seenVoters = counted.seenVoters ++ [vote.voterId] ∧
      Tally.total counted'.perDomain = Tally.total counted.perDomain + weightOf set vote.voterId ∧
      ((∀ e ∈ counted.perDomain, 0 ≤ e.2) → ∀ e ∈ counted'.perDomain, 0 ≤ e.2) := by
  simp only [countVote, bind_eq_ok, exists_unit, raiseIf_eq_ok, decide_eq_false_iff_not,
    not_or, ne_eq, not_not] at h
  obtain ⟨hnew, hsubj, h⟩ := h
  split at h
  . cases h
  . next ident hident =>
    simp only [bind_eq_ok, exists_unit, raiseIf_eq_ok, decide_eq_false_iff_not, not_not] at h
    obtain ⟨hmember, h⟩ := h
    split at h
    . cases h
    . next key hkey =>
      simp only [bind_eq_ok, exists_unit, raiseIf_eq_ok, ensure_eq_ok, pure_inj] at h
      obtain ⟨-, _, -, hvalid, rfl⟩ := h
      refine ⟨hnew, ⟨hsubj, hmember, ident, key, hident, hkey, hvalid⟩, rfl, ?_, ?_⟩
      . rw [Tally.total_add, weightOf, hident, Option.map_some, Option.getD_some]
      . intro hold
        exact Tally.nonneg_add hold _ ident.effectiveWeight_nonneg

theorem foldlM_countVote {members : List String} {votes : List SignedVote}
    {counted counted' : Counted}
    (h : votes.foldlM (countVote qc set policy members) counted = .ok counted')
    (hseen : counted.seenVoters.Nodup) (hdomains : ∀ e ∈ counted.perDomain, 0 ≤ e.2)
    : (counted.seenVoters ++ votes.map (·.voterId)).Nodup ∧
      (∀ vote ∈ votes, Accepted qc set policy members vote) ∧
      Tally.total counted'.perDomain = Tally.total counted.perDomain +
        (votes.map fun vote => weightOf set vote.voterId).sum ∧
      ∀ e ∈ counted'.perDomain, 0 ≤ e.2 := by
  induction votes generalizing counted with
  | nil =>
    rw [foldlM_nil, pure_inj] at h
    subst h
    simpa [hseen] using hdomains
  | cons vote votes ih =>
    rw [foldlM_cons, bind_eq_ok] at h
    obtain ⟨next, hnext, h⟩ := h
    obtain ⟨hnew, hacc, hvoters, htotal, hkeeps⟩ := countVote_eq_ok hnext
    have hpush : next.seenVoters.Nodup := by
      rw [hvoters, ← concat_eq_append, nodup_concat]
      exact ⟨hnew, hseen⟩
    obtain ⟨hnodup, hall, hsum, hnonneg⟩ := ih h hpush (hkeeps hdomains)
    refine ⟨?_, ?_, ?_, hnonneg⟩
    . rwa [hvoters, append_assoc] at hnodup
    . rintro v (_ | ⟨_, hv⟩)
      . exact hacc
      . exact hall v hv
    . rw [hsum, htotal, map_cons, sum_cons, add_assoc]

section Weights

variable [Numerics]

omit [Platform] in
theorem le_of_isClose (ha : 0 ≤ a) (hlt : a < b) (h : isClose a b)
    : (1 - Numerics.relTol) * b ≤ a := by
  simp only [isClose, decide_eq_true_eq, abs_of_nonneg ha, abs_of_nonneg (ha.trans hlt.le),
    max_eq_right hlt.le, abs_of_neg (sub_neg.mpr hlt)] at h
  linarith

omit [Platform] in
theorem checkWeight_eq_ok
    (h : checkWeight qc set policy committee perDomain checkMetadata = .ok weights)
    (hnonneg : ∀ e ∈ perDomain, 0 ≤ e.2)
    : 0 < rawWeight committee ∧
      (1 - Numerics.relTol) * (policy.thresholdFraction * rawWeight committee) ≤
        Tally.total perDomain := by
  simp only [checkWeight, bind_eq_ok, exists_unit, raiseIf_eq_ok, decide_eq_false_iff_not, not_le,
    not_and, not_not] at h
  obtain ⟨hpos, -, -, hquorum, -⟩ := h
  refine ⟨hpos, ?_⟩
  have hceiling : 0 ≤ set.policy.maxFraction * rawWeight committee :=
    mul_nonneg set.policy.maxFraction_mem.1.le hpos.le
  have hthr : 0 ≤ policy.thresholdFraction * rawWeight committee :=
    mul_nonneg policy.threshold_mem.1.le hpos.le
  apply le_trans _ (Tally.capped_le (set.policy.maxFraction * rawWeight committee) perDomain)
  by_cases hlt : Tally.capped (set.policy.maxFraction * rawWeight committee) perDomain <
      policy.thresholdFraction * rawWeight committee
  . exact le_of_isClose (Tally.capped_nonneg hceiling hnonneg) hlt (hquorum hlt)
  . have htol := mul_nonneg Numerics.relTol_nonneg hthr
    linarith [not_lt.mp hlt]

end Weights

section Verify

variable [Sortition] [Numerics]

omit [Platform] [Sortition] [Numerics] in
theorem weightOf_agentId (h : v ∈ set.validators)
    : weightOf set v.agentId = v.effectiveWeight := by
  rw [weightOf, ValidatorSet.get_eq_some.mpr ⟨h, rfl⟩, Option.map_some, Option.getD_some]

variable {committee committeeA committeeB : CommitteeSelection}

omit [Platform] [Numerics] in
theorem exists_identities (h : reconstructCommittee set policy seed = .ok committee)
    : ∃ picked, committeeIdentities set committee.members = .ok picked ∧
      rawWeight picked = committee.weight ∧
      committee.weight = (committee.members.map (weightOf set)).sum ∧ committee.members.Nodup := by
  obtain ⟨-, rfl⟩ := reconstructCommittee_eq_ok.mp h
  have hnodup : ((set.snapshot.filter (·.agentId ∉ policy.excludedVoterIds)).map
      (·.agentId)).Nodup := by
    have hsnap := (set.snapshot_perm.map (·.agentId)).nodup_iff.mpr set.nodup
    exact hsnap.sublist (filter_sublist.map _)
  generalize hsize : (policy.committeeSize.getD
    (set.candidates policy.excludedVoterIds).length).toNat = k
  have hmem : ∀ v ∈ pick seed k (set.snapshot.filter (·.agentId ∉ policy.excludedVoterIds)),
      v ∈ set.validators := by
    intro v hv
    have hv := mem_of_mem_filter (pick_subset _ _ _ hv)
    exact set.snapshot_perm.mem_iff.mp hv
  refine ⟨_, ?_, rfl, ?_, nodup_pick hnodup⟩
  . rw [committeeIdentities, selectionOf, mapM_map]
    refine (Except.mapM_of_forall (g := id) fun v hv => ?_).trans (by rw [map_id])
    simp [ValidatorSet.get_eq_some.mpr ⟨hmem v hv, rfl⟩]
  . rw [selectionOf, map_map]
    show rawWeight _ = _
    rw [rawWeight]
    congr 1
    apply map_congr_left
    intro v hv
    exact (weightOf_agentId (hmem v hv)).symm

structure Verified (set : ValidatorSet) (policy : CertificateVerificationPolicy)
    (qc : QuorumCertificate) (committee : CommitteeSelection) : Prop where
  seed : ∀ seed ∈ policy.expectedCommitteeSeed, seed = qc.committeeSeed
  rebuilt : reconstructCommittee set policy qc.committeeSeed = .ok committee
  nodup : (qc.votes.map (·.voterId)).Nodup
  accepted : ∀ vote ∈ qc.votes, Accepted qc set policy committee.members vote
  weight_pos : 0 < committee.weight
  quorum : (1 - Numerics.relTol) * (policy.thresholdFraction * committee.weight) ≤
    (qc.votes.map fun vote => weightOf set vote.voterId).sum

theorem verifyCertificateCore_eq_ok {exp : Option CommitteeSelection} {checkMetadata : Bool}
    {weights : ℚ × ℚ} (h : verifyCertificateCore qc set policy exp checkMetadata = .ok weights)
    : ∃ committee, Verified set policy qc committee := by
  simp only [verifyCertificateCore, expectedSelection, weighVotes, bind_eq_ok, exists_unit,
    raiseIf_eq_ok, pure_inj] at h
  obtain ⟨-, _, ⟨hseed, committee, hrebuilt, -, rfl⟩, -, -, _, hcounted, _, hidents, hweight⟩ := h
  obtain ⟨hnodup, hacc, htotal, hnonneg⟩ := foldlM_countVote hcounted nodup_nil (by simp)
  obtain ⟨_, hpicked, hraw, -⟩ := exists_identities hrebuilt
  rw [hidents, Except.ok.injEq] at hpicked
  obtain ⟨hpos, hquorum⟩ := checkWeight_eq_ok hweight hnonneg
  rw [hpicked, hraw] at hpos hquorum
  refine ⟨committee, ?_, hrebuilt, by simpa using hnodup, hacc, hpos, ?_⟩
  . intro seed hmem
    rw [Option.mem_def] at hmem
    simpa [hmem] using hseed
  . rw [htotal] at hquorum
    simpa [Tally.total] using hquorum

omit [Platform] [Numerics] in
theorem reconstructCommittee_unique (hseed : policy.expectedCommitteeSeed.isSome → seedA = seedB)
    (hA : reconstructCommittee set policy seedA = .ok committeeA)
    (hB : reconstructCommittee set policy seedB = .ok committeeB)
    : committeeA.members = committeeB.members ∧ committeeA.weight = committeeB.weight := by
  obtain ⟨-, rfl⟩ := reconstructCommittee_eq_ok.mp hA
  obtain ⟨-, rfl⟩ := reconstructCommittee_eq_ok.mp hB
  cases hsize : policy.committeeSize with
  | some size =>
    obtain ⟨seed, hmem, -⟩ := policy.seed_of_size (by simp [hsize])
    rw [hseed (by simp [Option.mem_def.mp hmem])]
    exact ⟨rfl, rfl⟩
  | none =>
    have hperm : (set.snapshot.filter (·.agentId ∉ policy.excludedVoterIds)).Perm
        (set.candidates policy.excludedVoterIds) := set.snapshot_perm.filter _
    have hnodup := (hperm.map (·.agentId)).nodup_iff.mpr (nodup_candidates set _)
    have hall (seed : String) : pick seed (set.candidates policy.excludedVoterIds).length
        (set.snapshot.filter (·.agentId ∉ policy.excludedVoterIds)) =
        Smallest.sortBy (·.agentId) (set.snapshot.filter (·.agentId ∉ policy.excludedVoterIds)) :=
      pick_of_length_le hperm.length_eq.le hnodup
    simp only [selectionOf, Option.getD_none, Int.toNat_natCast, hall, and_self]

theorem Verified.committee_unique (hA : Verified set policy qcA committeeA)
    (hB : Verified set policy qcB committeeB)
    : committeeA.members = committeeB.members ∧ committeeA.weight = committeeB.weight := by
  apply reconstructCommittee_unique _ hA.rebuilt hB.rebuilt
  intro hsome
  obtain ⟨seed, hseed⟩ := Option.isSome_iff_exists.mp hsome
  exact (hA.seed seed hseed).symm.trans (hB.seed seed hseed)

theorem Verified.voterIds_subset (h : Verified set policy qc committee)
    : qc.voterIds ⊆ committee.members.toFinset := by
  intro id hid
  obtain ⟨vote, hvote, rfl⟩ := mem_map.mp (mem_toFinset.mp hid)
  exact mem_toFinset.mpr (h.accepted vote hvote).member

theorem Verified.quorum_voterIds (h : Verified set policy qc committee)
    : (1 - Numerics.relTol) * (policy.thresholdFraction * committee.weight) ≤
      ∑ id ∈ qc.voterIds, weightOf set id := by
  rw [QuorumCertificate.voterIds, sum_toFinset _ h.nodup, map_map]
  exact h.quorum

theorem Verified.weight_eq (h : Verified set policy qc committee)
    : committee.weight = ∑ id ∈ committee.members.toFinset, weightOf set id := by
  obtain ⟨_, -, -, hweight, hnodup⟩ := exists_identities h.rebuilt
  rw [hweight, sum_toFinset _ hnodup]

theorem Verified.overlap (hA : Verified set policy qcA committeeA)
    (hB : Verified set policy qcB committeeB)
    : (2 * ((1 - Numerics.relTol) * policy.thresholdFraction) - 1) * committeeA.weight ≤
      ∑ id ∈ qcA.voterIds ∩ qcB.voterIds, weightOf set id := by
  obtain ⟨hmems, hweight⟩ := hA.committee_unique hB
  have hinter := Tally.add_le_add_inter hA.voterIds_subset (hmems ▸ hB.voterIds_subset)
    fun id _ => weightOf_nonneg set id
  have hquorumA := hA.quorum_voterIds
  have hquorumB := hB.quorum_voterIds
  rw [← hweight] at hquorumB
  rw [← hA.weight_eq] at hinter
  linarith

def Signed (policy : CertificateVerificationPolicy) (qc : QuorumCertificate) (voterId : String)
    (key : Bytes) : Prop :=
  ∃ vote ∈ qc.votes, vote.voterId = voterId ∧ vote.assignmentId = qc.assignmentId ∧
    vote.artifactHash = qc.artifactHash ∧ vote.epoch = qc.epoch ∧
    voteSignatureValid vote key policy.allowLegacyV1 = true

def KeySigned (set : ValidatorSet) (policy : CertificateVerificationPolicy) (qc : QuorumCertificate)
    (voterId : String) : Prop :=
  ∃ ident key, set.get voterId = some ident ∧ ident.publicKeyBytes = some key ∧
    Signed policy qc voterId key

theorem Verified.signed (h : Verified set policy qc committee)
    (hvoter : voterId ∈ qc.voterIds) : KeySigned set policy qc voterId := by
  obtain ⟨vote, hvote, rfl⟩ := mem_map.mp (mem_toFinset.mp hvoter)
  have hacc := h.accepted vote hvote
  obtain ⟨ident, key, hident, hkey, hvalid⟩ := hacc.signed
  obtain ⟨hasg, hart, hepoch⟩ := hacc.subject
  exact ⟨ident, key, hident, hkey, vote, hvote, rfl, hasg, hart, hepoch, hvalid⟩

omit [Sortition] [Numerics] in
theorem KeySigned.both (hA : KeySigned set policy qcA voterId)
    (hB : KeySigned set policy qcB voterId)
    : ∃ ident key, set.get voterId = some ident ∧ ident.publicKeyBytes = some key ∧
      Signed policy qcA voterId key ∧ Signed policy qcB voterId key := by
  obtain ⟨ident, key, hident, hkey, hsignedA⟩ := hA
  obtain ⟨_, _, hident', hkey', hsignedB⟩ := hB
  rw [hident, Option.some.injEq] at hident'
  subst hident'
  rw [hkey, Option.some.injEq] at hkey'
  subst hkey'
  exact ⟨ident, key, hident, hkey, hsignedA, hsignedB⟩

theorem exists_core_of_verifyCertificate
    (h : verifyCertificate qc set (some policy) none none = .ok ())
    : ∃ weights, verifyCertificateCore qc set policy none true = .ok weights := by
  simp only [verifyCertificate, Option.getD_some, strengthenedPolicy, ok_bind, bind_eq_ok] at h
  obtain ⟨weights, hcore, -⟩ := h
  exact ⟨weights, hcore⟩

/-- Certificates that verify and conflict convict signers of at least `(2t - 1)W`. -/
theorem detectConflict_accountable (hexact : Numerics.relTol = 0)
    (hsafe : policy.unsafeAllowSubTwoThirds = false)
    (hA : verifyCertificate qcA set (some policy) none none = .ok ())
    (hB : verifyCertificate qcB set (some policy) none none = .ok ())
    (hassignment : qcA.assignmentId = qcB.assignmentId) (hepoch : qcA.epoch = qcB.epoch)
    (hartifact : qcA.artifactHash ≠ qcB.artifactHash)
    : ∃ evidence committeeA committeeB,
      detectConflict qcA qcB set (some policy) none none = .ok (some evidence) ∧
      evidence.qcA = qcA ∧ evidence.qcB = qcB ∧
      reconstructCommittee set policy qcA.committeeSeed = .ok committeeA ∧
      reconstructCommittee set policy qcB.committeeSeed = .ok committeeB ∧
      committeeA.members = committeeB.members ∧ committeeA.weight = committeeB.weight ∧
      0 < (2 * policy.thresholdFraction - 1) * committeeA.weight ∧
      (2 * policy.thresholdFraction - 1) * committeeA.weight ≤
        ∑ id ∈ evidence.equivocators, weightOf set id ∧
      ∀ id ∈ evidence.equivocators, ∃ ident key, set.get id = some ident ∧
        ident.publicKeyBytes = some key ∧ Signed policy qcA id key ∧ Signed policy qcB id key := by
  obtain ⟨_, hcoreA⟩ := exists_core_of_verifyCertificate hA
  obtain ⟨_, hcoreB⟩ := exists_core_of_verifyCertificate hB
  obtain ⟨committeeA, hverifiedA⟩ := verifyCertificateCore_eq_ok hcoreA
  obtain ⟨committeeB, hverifiedB⟩ := verifyCertificateCore_eq_ok hcoreB
  obtain ⟨hmems, hweight⟩ := hverifiedA.committee_unique hverifiedB
  refine ⟨⟨qcA, qcB, qcA.voterIds ∩ qcB.voterIds⟩, committeeA, committeeB, ?_, rfl, rfl,
    hverifiedA.rebuilt, hverifiedB.rebuilt, hmems, hweight, ?_, ?_, ?_⟩
  . simp [detectConflict, hcoreA, hcoreB, hassignment, hepoch, hartifact, ok_bind, pure_eq_ok]
  . have hthr := policy.two_thirds_le hsafe
    apply mul_pos _ hverifiedA.weight_pos
    linarith
  . have hoverlap := hverifiedA.overlap hverifiedB
    rwa [hexact, sub_zero, one_mul] at hoverlap
  . intro id hid
    obtain ⟨hidA, hidB⟩ := Finset.mem_inter.mp hid
    exact (hverifiedA.signed hidA).both (hverifiedB.signed hidB)

end Verify

end Quorum

namespace Quorum.Sample

open scoped Apcc.Sample

instance numerics : Numerics where
  relTol := 0
  relTol_nonneg := le_refl 0
  fixed6 _ := ""
  floatHex _ := ""

def stakedVote (assignmentId artifactHash : String) (epoch : ℕ) (voter : String × UInt8)
    : SignedVote where
  voterId := voter.1
  assignmentId := assignmentId
  artifactHash := artifactHash
  epoch := epoch
  signature := List.replicate 64 0
  publicKeyBytes := List.replicate 32 voter.2

def stakedCertificate (assignmentId artifactHash : String) (epoch : ℕ)
    (voters : List (String × UInt8)) (weight : ℚ) : QuorumCertificate where
  assignmentId := assignmentId
  artifactHash := artifactHash
  epoch := epoch
  votes := voters.map (stakedVote assignmentId artifactHash epoch)
  thresholdWeight := 4
  achievedWeight := weight
  committeeSeed := "seed"

def certificateX : QuorumCertificate :=
  stakedCertificate "task" "x" 0 [("a", 0), ("c", 2)] 4

def certificateY : QuorumCertificate :=
  stakedCertificate "task" "y" 0 [("b", 1), ("c", 2)] 5

theorem detectConflict_accountable_staked
    : ∃ evidence committee,
      detectConflict certificateX certificateY stakedSet (some .standard) none none =
        .ok (some evidence) ∧
      reconstructCommittee stakedSet .standard "seed" = .ok committee ∧
      0 < (2 * CertificateVerificationPolicy.standard.thresholdFraction - 1) * committee.weight ∧
      (2 * CertificateVerificationPolicy.standard.thresholdFraction - 1) * committee.weight ≤
        ∑ id ∈ evidence.equivocators, weightOf stakedSet id := by
  have hx : verifyCertificate certificateX stakedSet (some .standard) none none = .ok () := by
    decide +kernel
  have hy : verifyCertificate certificateY stakedSet (some .standard) none none = .ok () := by
    decide +kernel
  obtain ⟨evidence, committee, _, hdetect, -, -, hcmte, -, -, -, hpos, hle, -⟩ :=
    detectConflict_accountable rfl rfl hx hy rfl rfl (by decide)
  exact ⟨evidence, committee, hdetect, hcmte, hpos, hle⟩

end Quorum.Sample
