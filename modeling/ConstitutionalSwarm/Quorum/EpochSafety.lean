import ConstitutionalSwarm.Quorum.Accountability
import ConstitutionalSwarm.Quorum.Epoch

namespace Quorum

open Raising List
open Apcc (Platform)

section Framing

variable {a b raw rest rest' : Bytes} {width n : ℕ}

theorem toBytes_eq_ok : toBytes width n = .ok raw ↔ BigEndian.toBytes width n = some raw := by
  unfold toBytes
  split <;> simp_all

theorem lengthPrefixed_eq_ok : lengthPrefixed a = .ok raw ↔ BigEndian.framed 4 a = some raw := by
  simp [lengthPrefixed, bind_eq_ok, toBytes_eq_ok, BigEndian.framed]

theorem lengthPrefixedAll_append_inj {as bs x y} (hlen : as.length = bs.length)
    (ha : lengthPrefixedAll as = .ok x) (hb : lengthPrefixedAll bs = .ok y)
    (h : x ++ rest = y ++ rest') : as = bs ∧ rest = rest' := by
  induction as generalizing bs x y with
  | nil =>
    obtain rfl := length_eq_zero_iff.mp hlen.symm
    cases ha
    cases hb
    exact ⟨rfl, h⟩
  | cons a as ih =>
    cases bs with
    | nil => cases hlen
    | cons b bs =>
      simp only [lengthPrefixedAll, bind_eq_ok, pure_inj, lengthPrefixed_eq_ok] at ha hb
      obtain ⟨_, hfirst, _, hothers, rfl⟩ := ha
      obtain ⟨_, hfirst', _, hothers', rfl⟩ := hb
      rw [append_assoc, append_assoc] at h
      obtain ⟨rfl, h⟩ := BigEndian.framed_append_inj hfirst hfirst' h
      obtain ⟨rfl, hrest⟩ := ih (Nat.succ.inj hlen) hothers hothers' h
      exact ⟨rfl, hrest⟩

theorem lengthPrefixedAll_inj {as bs x y} (hlen : as.length = bs.length)
    (ha : lengthPrefixedAll as = .ok x) (hb : lengthPrefixedAll bs = .ok y) (h : x = y)
    : as = bs :=
  (lengthPrefixedAll_append_inj hlen ha hb (congrArg (· ++ []) h)).1

theorem versionMessage_inj {epoch epoch' : ℕ} {rules rules' parent parent'}
    (h : versionMessage epoch rules parent = .ok raw)
    (h' : versionMessage epoch' rules' parent' = .ok raw)
    : epoch = epoch' ∧ rules = rules' ∧ parent = parent' := by
  simp only [versionMessage, bind_eq_ok, exists_unit, pure_inj, toBytes_eq_ok] at h h'
  obtain ⟨-, -, _, hepoch, _, hwidth, _, hcount, _, hbody, rfl⟩ := h
  obtain ⟨-, -, _, hepoch', _, hwidth', _, hcount', _, hbody', heq⟩ := h'
  simp only [append_assoc, append_cancel_left_eq] at heq
  obtain ⟨rfl, heq⟩ := BigEndian.toBytes_append_inj hepoch' hepoch heq
  obtain ⟨hpars, heq⟩ := BigEndian.toBytes_append_inj hwidth' hwidth heq
  obtain ⟨rfl, hrest⟩ := append_inj heq hpars
  obtain ⟨hlen, hbodies⟩ := BigEndian.toBytes_append_inj hcount' hcount hrest
  have hrules := lengthPrefixedAll_inj (by simpa using hlen) hbody' hbody hbodies
  exact ⟨rfl, map_injective_iff.mpr String.encodeUTF8_injective hrules.symm, rfl⟩

end Framing

section Subjects

variable [Platform] {A B : AmendmentProposal}

def AmendmentProposal.Hashes (proposal : AmendmentProposal) (message : Bytes) : Prop :=
  (∃ parts, proposal.parts = .ok parts ∧
    Framing.framedMessage transitionSubjectDomain parts = .ok message) ∨
  versionMessage proposal.proposed.epoch proposal.proposed.rules proposal.proposed.parentDigest =
    .ok message

def AmendmentProposal.Collides (A B : AmendmentProposal) : Prop :=
  ∃ a b, A.Hashes a ∧ B.Hashes b ∧ a ≠ b ∧ Platform.sha256 a = Platform.sha256 b

theorem message_eq {a b} (hnone : ¬A.Collides B) (hA : A.Hashes a) (hB : B.Hashes b)
    (h : Platform.sha256 a = Platform.sha256 b) : a = b := by
  by_contra hne
  exact hnone ⟨a, b, hA, hB, hne, h⟩

variable {digest : Bytes} {subject : String × String × ℕ}

theorem message_of_framedDigest {domain parts} (h : Framing.framedDigest domain parts = .ok digest)
    : ∃ msg, Framing.framedMessage domain parts = .ok msg ∧
      Platform.sha256 msg = digest := by
  simpa only [Framing.framedDigest, bind_eq_ok, pure_inj] using h

theorem parts_of_subject (hA : transitionVoteSubject A = .ok subject)
    (hB : transitionVoteSubject B = .ok subject) (hnone : ¬A.Collides B)
    : ∃ parts, A.parts = .ok parts ∧ B.parts = .ok parts := by
  simp only [transitionVoteSubject, transitionSubjectDigest, bind_eq_ok, pure_inj] at hA hB
  obtain ⟨digest, ⟨parts, hparts, hdig⟩, rfl⟩ := hA
  obtain ⟨digest', ⟨parts', hparts', hdig'⟩, heq⟩ := hB
  rw [Prod.mk.injEq, Prod.mk.injEq] at heq
  obtain ⟨_, hmsg, hhash⟩ := message_of_framedDigest hdig
  obtain ⟨_, hmsg', hhash'⟩ := message_of_framedDigest hdig'
  have hdigs : digest' = digest := Hex.encode_injective heq.2.1
  obtain rfl := message_eq hnone (.inl ⟨parts, hparts, hmsg⟩)
    (.inl ⟨parts', hparts', hmsg'⟩) (by rw [hhash, hhash', hdigs])
  rw [(Framing.framedMessage_inj hmsg' hmsg).2] at hparts'
  exact ⟨parts, hparts, hparts'⟩

theorem message_of_digest {ver : ConstitutionVersion} (h : ver.digest = .ok digest)
    : ∃ msg, versionMessage ver.epoch ver.rules ver.parentDigest = .ok msg ∧
      Platform.sha256 msg = digest := by
  simpa only [ConstitutionVersion.digest, bind_eq_ok, pure_inj] using h

theorem proposed_of_digest (hprior : A.prior = B.prior) (hA : A.proposed.digest = .ok digest)
    (hB : B.proposed.digest = .ok digest) (hnone : ¬A.Collides B) : A.proposed = B.proposed := by
  have hepoch : A.proposed.epoch = B.proposed.epoch := by
    rw [A.epoch_eq, B.epoch_eq, hprior]
  have hparent : A.proposed.parentDigest = B.proposed.parentDigest := by
    have h := A.digest_prior
    rw [hprior, B.digest_prior, Except.ok.injEq] at h
    exact h.symm
  obtain ⟨_, hmsg, hhash⟩ := message_of_digest hA
  obtain ⟨_, hmsg', hhash'⟩ := message_of_digest hB
  obtain rfl := message_eq hnone (.inr hmsg) (.inr hmsg') (hhash.trans hhash'.symm)
  rw [hepoch, hparent] at hmsg
  have hrules := (versionMessage_inj hmsg hmsg').2.1
  cases hv : A.proposed
  cases hw : B.proposed
  simp_all

theorem of_transitionVoteSubject (h : transitionVoteSubject A = .ok subject)
    : subject.1 = transitionAssignmentId ∧ subject.2.2 = A.proposed.epoch := by
  simp only [transitionVoteSubject, bind_eq_ok, pure_inj] at h
  obtain ⟨_, -, rfl⟩ := h
  exact ⟨rfl, rfl⟩

theorem proposal_of_subject (hprior : A.prior = B.prior)
    (hA : transitionVoteSubject A = .ok subject) (hB : transitionVoteSubject B = .ok subject)
    (hnone : ¬A.Collides B) : A = B := by
  obtain ⟨_, hpartsA, hpartsB⟩ := parts_of_subject hA hB hnone
  simp only [AmendmentProposal.parts, bind_eq_ok, pure_inj] at hpartsA hpartsB
  obtain ⟨_, -, _, hdig, rfl⟩ := hpartsA
  obtain ⟨_, -, _, hdig', heq⟩ := hpartsB
  simp only [cons.injEq, Framing.Part.bytes.injEq, Framing.Part.int.injEq, Nat.cast_inj,
    and_true] at heq
  obtain ⟨-, hdigs, hbudget, hepoch, hbinding, hold, hnew⟩ := heq
  have hproposed := proposed_of_digest hprior hdig (hdigs ▸ hdig') hnone
  obtain ⟨prior, proposed, ⟨budget⟩, _, _, _, _, _, _, _, _⟩ := A
  obtain ⟨prior', proposed', ⟨budget'⟩, _, _, _, _, _, _, _, _⟩ := B
  simp_all

end Subjects

def stakeOf (set : ValidatorSet) (agentId : String) : ℚ :=
  ((set.get agentId).map (·.stake)).getD 0

theorem stakeOf_nonneg (set : ValidatorSet) (agentId : String) : 0 ≤ stakeOf set agentId := by
  unfold stakeOf
  cases set.get agentId with
  | none => exact le_refl 0
  | some v => exact v.stake_nonneg

variable {set : ValidatorSet}

theorem stakeOf_agentId {v} (h : v ∈ set.validators)
    : stakeOf set v.agentId = v.stake := by
  rw [stakeOf, ValidatorSet.get_eq_some.mpr ⟨h, rfl⟩, Option.map_some, Option.getD_some]

def ValidatorSet.ids (set : ValidatorSet) : Finset String :=
  (set.validators.map (·.agentId)).toFinset

theorem rawStake_eq (set : ValidatorSet)
    : rawStake set.validators = ∑ id ∈ set.ids, stakeOf set id := by
  rw [ValidatorSet.ids, sum_toFinset _ set.nodup, map_map, rawStake]
  congr 1
  apply map_congr_left
  intro v hv
  exact (stakeOf_agentId hv).symm

theorem validatedSnapshot_eq_ok {snap}
    (h : validatedSnapshot set = .ok snap) : snap = set.snapshot := by
  simp only [validatedSnapshot, bind_eq_ok, exists_unit, pure_inj] at h
  exact h.2.symm

theorem rawStake_snapshot (set : ValidatorSet) : rawStake set.snapshot = rawStake set.validators :=
  (set.snapshot_perm.map _).sum_eq

theorem computeTransitionThreshold_eq_ok {fraction : ℚ} {thr : Int}
    (h : computeTransitionThreshold set fraction = .ok thr)
    : 0 < rawStake set.validators ∧ thr = ⌈fraction * rawStake set.validators⌉ := by
  simp only [computeTransitionThreshold, bind_eq_ok, exists_unit, raiseIf_eq_ok, pure_inj,
    decide_eq_false_iff_not, not_not, not_le] at h
  obtain ⟨-, _, hsnap, hpos, hthr⟩ := h
  rw [validatedSnapshot_eq_ok hsnap, rawStake_snapshot] at hpos hthr
  exact ⟨hpos, hthr.symm⟩

theorem signedRawStake_eq_ok {qc} {signed : ℚ} (h : signedRawStake qc set = .ok signed)
    : signed = (qc.votes.map fun vote => stakeOf set vote.voterId).sum := by
  simp only [signedRawStake, bind_eq_ok, pure_inj] at h
  obtain ⟨_, hstakes, rfl⟩ := h
  obtain ⟨hall, -⟩ := Except.mapM_eq_ok.mp hstakes
  rw [Except.mapM_of_forall (g := fun vote => stakeOf set vote.voterId), Except.ok.injEq] at hstakes
  . rw [hstakes]
  . intro vote hvote
    obtain ⟨_, hstake⟩ := hall vote hvote
    unfold stakeOf
    cases hget : set.get vote.voterId with
    | none => simp [hget] at hstake
    | some ident => rfl

theorem verifyCertificate_of_reportSide {side res}
    (h : reportSide side res = .ok ()) : res = .ok () := by
  unfold reportSide at h
  split at h
  . cases h
  . cases h
  . exact h

section Sides

theorem snapshotSet_eq_ok {snap} (h : snapshotSet set = .ok snap)
    : SameMembers snap set := by
  simp only [snapshotSet, bind_eq_ok] at h
  obtain ⟨_, hvals, h⟩ := h
  obtain rfl := validatedSnapshot_eq_ok hvals
  have hnodup : (set.snapshot.map (·.agentId)).Nodup :=
    (set.snapshot_perm.map _).nodup_iff.mpr set.nodup
  rw [ValidatorSet.ofValidators_eq_ok _ hnodup, Except.ok.injEq] at h
  intro v
  rw [← h]
  exact set.snapshot_perm.mem_iff

theorem SameMembers.get_eq {other} (h : SameMembers set other) (id : String)
    : set.get id = other.get id := by
  apply Option.ext
  intro v
  rw [ValidatorSet.get_eq_some, ValidatorSet.get_eq_some, h v]

variable [Platform] {set : ValidatorSet}
  {policy : CertificateVerificationPolicy} {qc qcA qcB : QuorumCertificate}

structure Ratified (set : ValidatorSet) (policy : CertificateVerificationPolicy)
    (qc : QuorumCertificate) : Prop where
  stake_pos : 0 < rawStake set.validators
  signed : ∀ id ∈ qc.voterIds, KeySigned set policy qc id
  stake : (⌈policy.thresholdFraction * rawStake set.validators⌉ : ℚ) ≤
    ∑ id ∈ qc.voterIds, stakeOf set id

theorem Ratified.voterIds_subset (h : Ratified set policy qc) : qc.voterIds ⊆ set.ids := by
  intro id hid
  obtain ⟨_, _, hget, -⟩ := h.signed id hid
  obtain ⟨hmem, rfl⟩ := ValidatorSet.get_eq_some.mp hget
  exact mem_toFinset.mpr (mem_map_of_mem hmem)

theorem Ratified.overlap (hA : Ratified set policy qcA) (hB : Ratified set policy qcB)
    : 2 * (⌈policy.thresholdFraction * rawStake set.validators⌉ : ℚ) - rawStake set.validators ≤
      ∑ id ∈ qcA.voterIds ∩ qcB.voterIds, stakeOf set id := by
  have hinter := Tally.add_le_add_inter hA.voterIds_subset hB.voterIds_subset
    fun id _ => stakeOf_nonneg set id
  rw [← rawStake_eq] at hinter
  linarith [hA.stake, hB.stake]

theorem Ratified.overlap_pos (h : Ratified set policy qc)
    (hsafe : policy.unsafeAllowSubTwoThirds = false)
    : 0 < 2 * (⌈policy.thresholdFraction * rawStake set.validators⌉ : ℚ) -
      rawStake set.validators := by
  have hthr := policy.two_thirds_le hsafe
  have hceil := Int.le_ceil (policy.thresholdFraction * rawStake set.validators)
  have hmul := mul_le_mul_of_nonneg_right hthr h.stake_pos.le
  linarith [h.stake_pos]

theorem Ratified.congr {other} (h : Ratified set policy qc)
    (hsame : SameMembers set other) : Ratified other policy qc := by
  have hstake : rawStake set.validators = rawStake other.validators := (hsame.perm.map _).sum_eq
  obtain ⟨hpos, hsigned, hle⟩ := h
  simp only [KeySigned, stakeOf, hsame.get_eq, hstake] at hpos hsigned hle
  exact ⟨hpos, hsigned, hle⟩

variable [Sortition] [Numerics]

theorem ratified_of_verifySide {side} (h : verifySide side qc set policy = .ok ())
    : Ratified set policy qc := by
  simp only [verifySide, bind_eq_ok, exists_unit, raiseIf_eq_ok, decide_eq_false_iff_not,
    not_lt] at h
  obtain ⟨_, hthr, -, -, hreport, _, hsigned, hle⟩ := h
  obtain ⟨hpos, rfl⟩ := computeTransitionThreshold_eq_ok hthr
  obtain ⟨_, hcore⟩ :=
    exists_core_of_verifyCertificate (verifyCertificate_of_reportSide hreport)
  obtain ⟨_, hver⟩ := verifyCertificateCore_eq_ok hcore
  refine ⟨hpos, fun id hid => hver.signed hid, ?_⟩
  rw [signedRawStake_eq_ok hsigned] at hle
  rw [QuorumCertificate.voterIds, sum_toFinset _ hver.nodup, map_map]
  exact hle

end Sides

section Transitions

variable [Platform] [Sortition] [Numerics] {certificate certA certB : TransitionCertificate}
  {oldSet newSet newSetA newSetB : ValidatorSet} {current : ConstitutionVersion}
  {policy : TransitionVerificationPolicy}

structure AcceptedTransition (certificate : TransitionCertificate)
    (oldSet newSet : ValidatorSet) (current : ConstitutionVersion)
    (policy : TransitionVerificationPolicy) : Prop where
  prior : certificate.proposal.prior = current
  drift : evaluateDrift current certificate.proposal.proposed ≤ policy.maxRuleDelta
  subject : transitionVoteSubject certificate.proposal =
    .ok certificate.oldSideCertificate.subject
  new_subject : certificate.newSideCertificate.subject = certificate.oldSideCertificate.subject
  old : Ratified oldSet policy.oldCertificate certificate.oldSideCertificate
  new : Ratified newSet policy.newCertificate certificate.newSideCertificate

theorem accepted_of_verifyTransition
    (h : verifyTransition certificate oldSet newSet current policy = .ok ())
    : AcceptedTransition certificate oldSet newSet current policy := by
  simp only [verifyTransition, bind_eq_ok, exists_unit, raiseIf_eq_ok, decide_eq_false_iff_not,
    ne_eq, not_not, not_lt, gt_iff_lt] at h
  obtain ⟨_, hold, _, hnew, hprior, -, _, -, -, _, -, -, -, hdrift, _,
    hsubj, holdSubject, hnewSubject, holdSide, hnewSide⟩ := h
  refine ⟨hprior, ?_, holdSubject ▸ hsubj, hnewSubject.trans holdSubject.symm, ?_, ?_⟩
  . rw [← hprior]
    exact hdrift
  . exact (ratified_of_verifySide holdSide).congr (snapshotSet_eq_ok hold)
  . exact (ratified_of_verifySide hnewSide).congr (snapshotSet_eq_ok hnew)

structure Link where
  certificate : TransitionCertificate
  oldValidatorSet : ValidatorSet
  newValidatorSet : ValidatorSet
  policy : TransitionVerificationPolicy

def Link.proposed (link : Link) : ConstitutionVersion :=
  link.certificate.proposal.proposed

def advance (current : ConstitutionVersion) (link : Link) : Py ConstitutionVersion := do
  verifyTransition link.certificate link.oldValidatorSet link.newValidatorSet current link.policy
  return link.proposed

structure Link.Advances (link : Link) (current : ConstitutionVersion) : Prop where
  epoch : link.proposed.epoch = current.epoch + 1
  parent : current.digest = .ok link.proposed.parentDigest
  drift : evaluateDrift current link.proposed ≤ link.policy.maxRuleDelta
  old_subject : transitionVoteSubject link.certificate.proposal =
    .ok link.certificate.oldSideCertificate.subject
  new_subject : transitionVoteSubject link.certificate.proposal =
    .ok link.certificate.newSideCertificate.subject
  old : Ratified link.oldValidatorSet link.policy.oldCertificate link.certificate.oldSideCertificate
  new : Ratified link.newValidatorSet link.policy.newCertificate link.certificate.newSideCertificate

def AdvanceAll : ConstitutionVersion → List Link → Prop
  | _, [] => True
  | current, link :: links => link.Advances current ∧ AdvanceAll link.proposed links

theorem advance_eq_ok {link next} (h : advance current link = .ok next)
    : next = link.proposed ∧ link.Advances current := by
  simp only [advance, bind_eq_ok, exists_unit, pure_inj] at h
  obtain ⟨hverify, hnext⟩ := h
  have hacc := accepted_of_verifyTransition hverify
  have hprior := hacc.prior
  refine ⟨hnext.symm, ?_, ?_, hacc.drift, hacc.subject, hacc.new_subject ▸ hacc.subject, hacc.old,
    hacc.new⟩
  . rw [← hprior]
    exact link.certificate.proposal.epoch_eq
  . rw [← hprior]
    exact link.certificate.proposal.digest_prior

theorem advanceAll_of_foldlM {links final} (h : links.foldlM advance current = .ok final)
    : final.epoch = current.epoch + links.length ∧ AdvanceAll current links := by
  induction links generalizing current with
  | nil =>
    rw [foldlM_nil, pure_inj] at h
    rw [h]
    exact ⟨rfl, trivial⟩
  | cons link links ih =>
    rw [foldlM_cons, bind_eq_ok] at h
    obtain ⟨_, hnext, h⟩ := h
    obtain ⟨rfl, hadvances⟩ := advance_eq_ok hnext
    obtain ⟨hepoch, hall⟩ := ih h
    refine ⟨?_, hadvances, hall⟩
    rw [hepoch, hadvances.epoch, length_cons]
    omega

/--
Two transitions from one version convict validators of `2⌈tS⌉ - S` of the old stake, whose keys
signed two subjects unless the messages behind them collide; and along a chain of transitions
every step is one epoch further, bound to its predecessor, within the drift and ratified on both
sides.
-/
theorem epochs_do_not_fork_silently (current : ConstitutionVersion) (oldSet : ValidatorSet)
    (policy : TransitionVerificationPolicy)
    (hsafe : policy.oldCertificate.unsafeAllowSubTwoThirds = false)
    : (∀ certA certB newSetA newSetB,
        verifyTransition certA oldSet newSetA current policy = .ok () →
        verifyTransition certB oldSet newSetB current policy = .ok () →
        certA.proposal ≠ certB.proposal →
        0 < 2 * (⌈policy.oldCertificate.thresholdFraction * rawStake oldSet.validators⌉ : ℚ) -
          rawStake oldSet.validators ∧
        2 * (⌈policy.oldCertificate.thresholdFraction * rawStake oldSet.validators⌉ : ℚ) -
            rawStake oldSet.validators ≤
          ∑ id ∈ certA.oldSideCertificate.voterIds ∩ certB.oldSideCertificate.voterIds,
            stakeOf oldSet id ∧
        (∀ id ∈ certA.oldSideCertificate.voterIds ∩ certB.oldSideCertificate.voterIds,
          ∃ ident key, oldSet.get id = some ident ∧ ident.publicKeyBytes = some key ∧
            Signed policy.oldCertificate certA.oldSideCertificate id key ∧
            Signed policy.oldCertificate certB.oldSideCertificate id key) ∧
        (certA.oldSideCertificate.artifactHash ≠ certB.oldSideCertificate.artifactHash ∨
          certA.proposal.Collides certB.proposal)) ∧
      ∀ links final, links.foldlM advance current = .ok final →
        final.epoch = current.epoch + links.length ∧ AdvanceAll current links := by
  refine ⟨?_, fun links final h => advanceAll_of_foldlM h⟩
  intro certA certB newSetA newSetB hA hB hne
  have hA := accepted_of_verifyTransition hA
  have hB := accepted_of_verifyTransition hB
  refine ⟨hA.old.overlap_pos hsafe, hA.old.overlap hB.old, ?_, ?_⟩
  . intro id hid
    obtain ⟨hidA, hidB⟩ := Finset.mem_inter.mp hid
    exact (hA.old.signed id hidA).both (hB.old.signed id hidB)
  . by_contra hnot
    obtain ⟨hart, hnone⟩ := not_or.mp hnot
    apply hne
    have hsubj : certA.oldSideCertificate.subject = certB.oldSideCertificate.subject := by
      obtain ⟨hasg, hepoch⟩ := of_transitionVoteSubject hA.subject
      obtain ⟨hasg', hepoch'⟩ := of_transitionVoteSubject hB.subject
      rw [AmendmentProposal.epoch_eq, hA.prior] at hepoch
      rw [AmendmentProposal.epoch_eq, hB.prior] at hepoch'
      exact Prod.ext (hasg.trans hasg'.symm)
        (Prod.ext (not_not.mp hart) (hepoch.trans hepoch'.symm))
    exact proposal_of_subject (hA.prior.trans hB.prior.symm) hA.subject (hsubj ▸ hB.subject) hnone

end Transitions

end Quorum

namespace Quorum.Sample

open Apcc (pure_inj)
open scoped Apcc.Sample

def genesis : ConstitutionVersion where
  epoch := 0
  rules := []
  parentDigest := []
  epoch_lt := by decide
  rules_sorted := List.Pairwise.nil
  rules_nodup := List.nodup_nil
  length_parent := by decide

def genesisDigest : Bytes :=
  genesis.digest.toOption.getD []

def successor : ConstitutionVersion where
  epoch := 1
  rules := []
  parentDigest := genesisDigest
  epoch_lt := by decide
  rules_sorted := List.Pairwise.nil
  rules_nodup := List.nodup_nil
  length_parent := by decide +kernel

def registryDigest : Bytes :=
  (computeValidatorSetDigest stakedSet).toOption.getD []

def amendment (bound : Bool) : AmendmentProposal where
  prior := genesis
  proposed := successor
  driftBudget := ⟨0⟩
  bindingDigest := if bound then List.replicate 32 0 else []
  oldValidatorSetDigest := registryDigest
  newValidatorSetDigest := registryDigest
  epoch_eq := rfl
  digest_prior := by decide +kernel
  length_binding := by cases bound <;> decide
  length_old := by decide +kernel
  length_new := by decide +kernel

def artifact (bound : Bool) : String :=
  Hex.encode ((transitionSubjectDigest (amendment bound)).toOption.getD [])

def sideCertificate (bound : Bool) : QuorumCertificate :=
  stakedCertificate transitionAssignmentId (artifact bound) 1
    [if bound then ("b", 1) else ("a", 0), ("c", 2)] (if bound then 5 else 4)

def transition (bound : Bool) : TransitionCertificate where
  proposal := amendment bound
  oldSideCertificate := sideCertificate bound
  newSideCertificate := sideCertificate bound
  old_wellSized := by
    simp [WellSized, sideCertificate, stakedCertificate, stakedVote]
  new_wellSized := by
    simp [WellSized, sideCertificate, stakedCertificate, stakedVote]

def transitionPolicy : TransitionVerificationPolicy where
  oldCertificate := .standard
  newCertificate := .standard
  maxRuleDelta := 0

theorem verifyTransition_transition (bound : Bool)
    : verifyTransition (transition bound) stakedSet stakedSet genesis transitionPolicy =
      .ok () := by
  cases bound <;> decide +kernel

def link : Link where
  certificate := transition false
  oldValidatorSet := stakedSet
  newValidatorSet := stakedSet
  policy := transitionPolicy

theorem epochs_do_not_fork_silently_staked
    : (transition false).proposal ≠ (transition true).proposal ∧
      (0 : ℚ) < 2 * ⌈CertificateVerificationPolicy.standard.thresholdFraction *
        rawStake stakedSet.validators⌉ - rawStake stakedSet.validators ∧
      [link].foldlM advance genesis = .ok successor ∧ successor.epoch = genesis.epoch + 1 := by
  have hne : (transition false).proposal ≠ (transition true).proposal := by
    intro h
    have hbinding := congrArg AmendmentProposal.bindingDigest h
    simp [transition, amendment] at hbinding
  have hchain : [link].foldlM advance genesis = .ok successor := by
    rw [List.foldlM_cons, advance, link]
    simp only [verifyTransition_transition]
    rfl
  obtain ⟨hfork, hrun⟩ := epochs_do_not_fork_silently genesis stakedSet transitionPolicy rfl
  obtain ⟨hpos, -⟩ := hfork _ _ _ _ (verifyTransition_transition false)
    (verifyTransition_transition true) hne
  exact ⟨hne, hpos, hchain, (hrun _ _ hchain).1⟩

end Quorum.Sample
