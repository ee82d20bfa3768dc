import ConstitutionalSwarm.Mesh.Settling
import ConstitutionalSwarm.Data.Transition

namespace Mesh

open Raising List Assoc
open PyValue (Dict sortTexts)

variable [Platform]

inductive Action where
  | registerRemoteAgent (agentId : String) (key : KeyInput)
  | registerLocalSigner (agentId : String) (key : PrivateKey)
  | unregisterAgent (agentId : String)
  | requestValidation (request : ValidationRequest)
  | signVote (assignmentId voterId : String) (approved : Bool) (reason nonce : String) (now : ℚ)
  | submitVote (assignmentId voterId : String) (approved : Bool) (reason signature : String)
      (now : ℚ)
  | submitVoteEnvelope (envelope : VoteEnvelope) (now : ℚ)
  | settle (assignmentId : String) (now : ℚ)
  | halt
  | resume

section Steps

variable [Interpreter]

def step (c : Config) (s : State) : Action → Py State
  | .registerRemoteAgent agentId key => registerRemoteAgent c s agentId key
  | .registerLocalSigner agentId key => registerLocalSigner c s agentId key
  | .unregisterAgent agentId => unregisterAgent c s agentId
  | .requestValidation request => Prod.snd <$> requestValidation c s request
  | .signVote assignmentId voterId approved reason nonce now =>
    Prod.snd <$> signVote c s assignmentId voterId approved reason nonce now
  | .submitVote assignmentId voterId approved reason signature now =>
    Prod.snd <$> recordVote c s assignmentId voterId approved reason signature now
  | .submitVoteEnvelope envelope now => Prod.snd <$> recordVoteEnvelope c s envelope now
  | .settle assignmentId now => .ok (settle c s assignmentId now).1
  | .halt => .ok { s with halted := true }
  | .resume => .ok { s with halted := false }

def Fresh (s : State) : Action → Prop
  | .requestValidation request =>
    s.voteEnvelopes.lookup request.assignmentId = none ∧ s.store.Absent request.assignmentId
  | _ => True

end Steps

structure Config.Valid (c : Config) : Prop where
  root : normalizeVoterId c.assignerId = .ok c.rootId
  rootIdentity : IsIdentity c.rootId
  quorum : 3 ≤ c.quorum

variable {c : Config} {s t : State} {a : PeerAssignment} {signed : SignedAssignment}

theorem signAssignment_eq_ok
    (h : signAssignment key binding assignerId peers quorum seed issuedAt = .ok signed)
    : normalizeVoterId assignerId = .ok signed.assignerId ∧
      normalizeVoterId binding.producerId = .ok signed.producerId ∧
      canonicalAssignedPeers peers = .ok signed.assignedPeers ∧
      signed.binding = { binding with producerId := signed.producerId } ∧
      signed.keyId = keyIdForPublicKey (Platform.publicKey key) ∧ signed.quorum = quorum ∧
      signed.signature = Hex.encode
        (Platform.sign key (canonicalSignedAssignmentBytes signed.toAssignmentFields false)) := by
  simp only [signAssignment, bind_eq_ok] at h
  obtain ⟨_, hassigner, _, hprod, _, hroster, _, hunsigned, h⟩ := h
  have hflds := SignedAssignment.ofFields_eq_ok.mp h
  rw [SignedAssignment.ofFields_eq_ok.mp hunsigned] at hflds
  have hsig : signed.signature = Hex.encode
      (Platform.sign key (canonicalSignedAssignmentBytes signed.toAssignmentFields false)) := by
    simp [hflds, canonicalSignedAssignmentBytes, AssignmentFields.unsignedDict]
  refine ⟨?_, ?_, ?_, ?_, ?_, ?_, hsig⟩ <;> rw [hflds]
  . exact hassigner
  . exact hprod
  . exact hroster
  . rfl

theorem validateSelectedPeers_eq_ok (h : validateSelectedPeers selected available needed = .ok u)
    : ∀ peer ∈ selected, IsIdentity peer := by
  simp only [validateSelectedPeers, bind_eq_ok, exists_unit, Except.forM_eq_ok, ensure_eq_ok,
    decide_eq_true_eq] at h
  exact h.2.1

theorem signRequest_issued [Platform.Lawful] (hc : c.Valid)
    (hpeers : ∀ peer ∈ peers, IsIdentity peer) (h : signRequest c req producerId peers = .ok a)
    : a.assignmentId = req.assignmentId ∧ a.isRecovered = false ∧
      ∃ signed, Issued c a signed := by
  simp only [signRequest, bind_eq_ok, pure_inj] at h
  obtain ⟨signed, hsigned, hash, -, rfl⟩ := h
  obtain ⟨hassigner, hprod, hroster, hbinding, hkeyId, hquorum, hsig⟩ :=
    signAssignment_eq_ok hsigned
  obtain ⟨-, -, hsort⟩ := (canonicalAssignedPeers_eq_ok hpeers).mp hroster
  refine ⟨rfl, rfl, signed, {
    evidence := rfl
    assigner := Except.ok.inj (hassigner.symm.trans hc.root)
    keyId := hkeyId
    verifies := ?_
    binding := hbinding
    producer := hprod
    peers := rfl
    identities := ?_
    quorum := rfl
    proofGrade := ?_
    mode := rfl
    constitution := rfl }⟩
  . rw [hsig]
    exact PublicKey.verifies_sign _ _
  . intro peer hpeer
    rw [← hsort] at hpeer
    exact hpeers peer ((sortTexts_perm peers).mem_iff.mp hpeer)
  . have := hc.quorum
    show 3 ≤ signed.quorum
    omega

variable {assignmentId voterId : String} {vote : VoteEnvelope}

theorem openAssignment_eq_ok (h : openAssignment c s assignmentId = .ok a)
    : s.finalResults.lookup assignmentId = none ∧ s.assignments.lookup assignmentId = some a ∧
      a.isRecovered = false := by
  simp only [openAssignment, bind_eq_ok, exists_unit, raiseIf_eq_ok, Option.isSome_eq_false_iff,
    Option.isNone_iff_eq_none] at h
  obtain ⟨hfinal, h⟩ := h
  split at h
  . simp at h
  . next asg hasg =>
    simp only [bind_eq_ok, exists_unit, raiseIf_eq_ok, pure_inj] at h
    obtain ⟨-, hrecov, rfl⟩ := h
    exact ⟨hfinal, hasg, hrecov⟩

theorem voteTarget_eq_ok (h : voteTarget c s assignmentId voterId = .ok a)
    : s.finalResults.lookup assignmentId = none ∧ s.assignments.lookup assignmentId = some a ∧
      a.isRecovered = false ∧ voterId ∈ a.peers := by
  simp only [voteTarget, bind_eq_ok, exists_unit, ensure_eq_ok, pure_inj, decide_eq_true_eq] at h
  obtain ⟨-, _, hopen, hvoter, -, rfl⟩ := h
  obtain ⟨hfinal, hasg, hrecov⟩ := openAssignment_eq_ok hopen
  exact ⟨hfinal, hasg, hrecov, hvoter⟩

theorem signVote_eq_ok
    (h : signVote c s assignmentId voterId approved reason nonce now = .ok (sig, t))
    : ∃ envs, t = { s with signedEnvelopes := envs } := by
  simp only [signVote, bind_eq_ok] at h
  obtain ⟨_, -, _, -, _, -, h⟩ := h
  split at h
  . simp at h
  . simp only [bind_eq_ok, exists_unit, pure_inj, Prod.mk.injEq] at h
    obtain ⟨_, -, _, -, -, -, rfl⟩ := h
    exact ⟨_, rfl⟩

structure Fits (c : Config) (a : PeerAssignment) (vote : VoteEnvelope) : Prop where
  bound : vote.binding = a.binding
  version : vote.protocolVersion = 3
  digest : vote.assignmentDigest = a.signedAssignmentDigest
  electorate : vote.electorate = ⟨rosterHash a.peers, a.peers.length, a.quorum, c.evidenceMode⟩
  assigned : vote.voterId ∈ a.peers

theorem Issued.verifyEnvelopeAssignmentMetadata_eq_ok (ha : Issued c a signed)
    (h : verifyEnvelopeAssignmentMetadata c s vote a = .ok u)
    : vote.protocolVersion = 3 ∧ vote.assignmentDigest = a.signedAssignmentDigest ∧
      vote.electorate = ⟨rosterHash a.peers, a.peers.length, a.quorum, c.evidenceMode⟩ := by
  simp only [verifyEnvelopeAssignmentMetadata, ha.peersHash, ha.effectiveQuorum_eq, ok_bind,
    bind_eq_ok, exists_unit, ha.assignmentEvidenceMode_eq_ok, raiseIf_eq_ok,
    decide_eq_false_iff_not, not_or, not_not, ne_eq] at h
  obtain ⟨-, _, ⟨-, rfl⟩, h⟩ := h
  exact h

theorem Issued.verifySubmittedVote_eq_ok (ha : Issued c a signed) (hvoter : voterId ∈ a.peers)
    (hsound : s.registry.Sound)
    (h : verifySubmittedVote c s a voterId approved reason sig = .ok vote)
    : Fits c a vote ∧ vote.Signed ∧ vote.voterId = voterId := by
  unfold verifySubmittedVote at h
  split at h
  . simp at h
  . next env _ =>
    simp only [bind_eq_ok, exists_unit, verifyVoteEnvelope_eq_ok, raiseIf_eq_ok, pure_inj,
      Except.ok.injEq, decide_eq_false_iff_not, not_or, not_not, ne_eq,
      show normalizeVoterId voterId = .ok voterId from ha.identities voterId hvoter] at h
    obtain ⟨key, ⟨hauthn, -⟩, hmeta, _, rfl, ⟨hname, -, -⟩, rfl⟩ := h
    obtain ⟨hvers, hdig, helectorate⟩ := ha.verifyEnvelopeAssignmentMetadata_eq_ok hmeta
    exact ⟨⟨hauthn.bound, hvers, hdig, helectorate, hname ▸ hvoter⟩, hauthn.signed hsound, hname⟩

theorem Ballots.nil : Ballots c a [] := by
  constructor <;> simp

theorem Ballots.concat (h : Ballots c a votes) (hfits : Fits c a vote) (hsigned : vote.Signed)
    (hnew : vote.voterId ∉ votes.map (·.voterId))
    : Ballots c a (votes ++ [vote]) where
  bound := forall_mem_append.mpr ⟨h.bound, forall_mem_singleton.mpr hfits.bound⟩
  version := forall_mem_append.mpr ⟨h.version, forall_mem_singleton.mpr hfits.version⟩
  digest := forall_mem_append.mpr ⟨h.digest, forall_mem_singleton.mpr hfits.digest⟩
  electorate :=
    forall_mem_append.mpr ⟨h.electorate, forall_mem_singleton.mpr hfits.electorate⟩
  nodup := nodup_map_concat.mpr ⟨hnew, h.nodup⟩
  assigned := forall_mem_append.mpr ⟨h.assigned, forall_mem_singleton.mpr hfits.assigned⟩
  signed := forall_mem_append.mpr ⟨h.signed, forall_mem_singleton.mpr hsigned⟩

section Runs

theorem State.evictOldest_kept (h : (s.evictOldest excess).assignments.lookup assignmentId = some a)
    : s.assignments.lookup assignmentId = some a ∧
      (s.evictOldest excess).votesOn assignmentId = s.votesOn assignmentId ∧
      (s.evictOldest excess).finalResults.lookup assignmentId =
        s.finalResults.lookup assignmentId := by
  induction excess generalizing s with
  | zero => exact ⟨h, rfl, rfl⟩
  | succ excess ih =>
    unfold State.evictOldest at h ⊢
    split at h
    . exact ⟨h, rfl, rfl⟩
    . next oldest res rest hresults =>
      obtain ⟨hfound, hvotes, hfinal⟩ := ih h
      have hkept : assignmentId ≠ oldest := by
        rintro rfl
        simp [State.evict, State.popAssignment, State.purgeSignedEnvelopes,
          Assoc.lookup_erase] at hfound
      refine ⟨?_, ?_, ?_⟩
      . simpa [State.evict, State.popAssignment, State.purgeSignedEnvelopes, Assoc.lookup_erase,
          hkept] using hfound
      . rw [hvotes]
        simp [State.evict, State.popAssignment, State.purgeSignedEnvelopes, State.votesOn,
          Assoc.lookup_erase, hkept]
      . rw [hfinal, hresults, Assoc.lookup_cons, if_neg hkept]
        rfl

theorem freeze_frozen (h : freeze c s assignmentId now = .ok (.inr frozen))
    : ∃ a, s.assignments.lookup assignmentId = some a ∧
      s.finalResults.lookup assignmentId = none ∧ a.isRecovered = false ∧
      frozen.recoveredAssignment = { a with isRecovered := true } ∧
      ∃ res, buildSettlementRecord c s frozen.recoveredAssignment res =
        .ok frozen.settledRecord := by
  unfold freeze at h
  split at h
  . split at h <;> simp at h
  . next hfinal =>
    simp only [bind_eq_ok, pure_inj, Sum.inr.injEq] at h
    obtain ⟨_, hfrozen, rfl⟩ := h
    unfold freezeAssignment at hfrozen
    split at hfrozen
    . simp at hfrozen
    . next a hfound =>
      simp only [bind_eq_ok, exists_unit, raiseIf_eq_ok, pure_inj] at hfrozen
      obtain ⟨-, hcurr, _, -, -, _, -, _, hrec, rfl⟩ := hfrozen
      exact ⟨a, hfound, hfinal, hcurr, rfl, _, hrec⟩

variable [Interpreter] {assignmentId : String}

theorem IsOpen.congr (h : IsOpen c s assignmentId a signed)
    (hvotes : t.votesOn assignmentId = s.votesOn assignmentId)
    (henvs : t.envelopesOn assignmentId = s.envelopesOn assignmentId)
    (habsent : t.store.Absent assignmentId) : IsOpen c t assignmentId a signed where
  name := h.name
  issued := h.issued
  ballots := henvs ▸ h.ballots
  paired := by rw [hvotes, henvs, h.paired]
  absent := habsent

structure Inv (c : Config) (s : State) : Prop where
  sound : s.registry.Sound
  readable : s.store.Readable
  isOpen : ∀ assignmentId a, s.assignments.lookup assignmentId = some a → a.isRecovered = false →
    s.finalResults.lookup assignmentId = none → ∃ signed, IsOpen c s assignmentId a signed

theorem Inv.frame (h : Inv c s) (hsound : t.registry.Sound)
    (hassignments : t.assignments = s.assignments) (hfinals : t.finalResults = s.finalResults)
    (hvotes : t.votes = s.votes) (henvs : t.voteEnvelopes = s.voteEnvelopes)
    (hstore : t.store = s.store) : Inv c t := by
  refine ⟨hsound, hstore ▸ h.readable, ?_⟩
  intro other b hb hcurr hfinal
  rw [hassignments] at hb
  rw [hfinals] at hfinal
  obtain ⟨signed, hopen⟩ := h.isOpen other b hb hcurr hfinal
  refine ⟨signed, hopen.congr ?_ ?_ (hstore ▸ hopen.absent)⟩
  . rw [State.votesOn, State.votesOn, hvotes]
  . rw [State.envelopesOn, State.envelopesOn, henvs]

theorem Inv.recordVerifiedVote (h : Inv c s) (hfinal : s.finalResults.lookup assignmentId = none)
    (hfound : s.assignments.lookup assignmentId = some a) (hcurr : a.isRecovered = false)
    {verified} (hfits : Fits c a verified) (hsigned : verified.Signed) {now : ℚ} {vote}
    (hrec : recordVerifiedVote s a verified.voterId verified now = .ok (vote, t)) : Inv c t := by
  obtain ⟨_, hopen⟩ := h.isOpen _ _ hfound hcurr hfinal
  simp only [Mesh.recordVerifiedVote, hopen.name, bind_eq_ok, exists_unit, raiseIf_eq_ok,
    any_eq_false, decide_eq_true_eq, pure_inj, Prod.mk.injEq] at hrec
  obtain ⟨hnew, rfl, rfl⟩ := hrec
  refine ⟨h.sound, h.readable, ?_⟩
  intro other b hb hbcurrent hbfinal
  obtain ⟨signed', hother⟩ := h.isOpen other b hb hbcurrent hbfinal
  by_cases heq : other = assignmentId
  . subst heq
    obtain rfl : a = b := Option.some.inj (hfound.symm.trans hb)
    have hfresh : verified.voterId ∉ (s.envelopesOn other).map (·.voterId) := by
      rw [← hopen.voters_eq, mem_map]
      rintro ⟨vote, hvote, heq⟩
      exact hnew vote hvote heq
    refine ⟨signed', hother.name, hother.issued, ?_, ?_, hother.absent⟩
    . simp only [State.envelopesOn, lookup_set, if_true, Option.getD_some]
      exact hother.ballots.concat hfits hsigned hfresh
    . simp only [State.votesOn, State.envelopesOn, lookup_set, if_true, Option.getD_some,
        map_append, map_singleton]
      exact congrArg (· ++ _) hother.paired
  . refine ⟨signed', hother.congr ?_ ?_ hother.absent⟩
    . simp only [State.votesOn, lookup_set, if_neg heq]
    . simp only [State.envelopesOn, lookup_set, if_neg heq]

theorem Inv.rememberFinalResult (h : Inv c s) (res : MeshResult)
    : Inv c (rememberFinalResult c s assignmentId res) := by
  obtain ⟨hreg, hstore⟩ := rememberFinalResult_frame c s assignmentId res
  refine ⟨hreg ▸ h.sound, hstore ▸ h.readable, ?_⟩
  intro other b hb hcurr hfinal
  obtain ⟨hfound, hvotes, hfinals⟩ := State.evictOldest_kept hb
  have henvs := (State.evictOldest_frame { s with
    finalResults := Assoc.erase assignmentId s.finalResults ++ [(assignmentId, res)] }
    ((Assoc.erase assignmentId s.finalResults ++ [(assignmentId, res)]).length -
      c.maxSettledResults)).2.2.2
  have hnone : s.finalResults.lookup other = none := by
    rw [Mesh.rememberFinalResult, hfinals, lookup_append, Option.or_eq_none_iff,
      Assoc.lookup_erase] at hfinal
    obtain ⟨herased, hother⟩ := hfinal
    rw [Assoc.lookup_cons] at hother
    split at hother
    . simp at hother
    . next hne => rwa [if_neg hne] at herased
  obtain ⟨signed, hopen⟩ := h.isOpen other b hfound hcurr hnone
  refine ⟨signed, hopen.congr hvotes ?_ (hstore ▸ hopen.absent)⟩
  rw [State.envelopesOn, State.envelopesOn]
  exact congrArg (fun envs => (envs.lookup other).getD []) henvs

theorem Inv.finishSettlement (h : Inv c s)
    (hrecov : recovered.isRecovered) (hname : recovered.assignmentId = assignmentId)
    (happends : s.store.Appends store record assignmentId)
    : Inv c (finishSettlement { s with store := store.clearPending assignmentId } assignmentId
      recovered) := by
  have hcleared : s.store.Appends (store.clearPending assignmentId) record assignmentId :=
    { happends with }
  refine ⟨h.sound, h.readable.of_appends hcleared, ?_⟩
  intro other b hb hcurr hfinal
  have hfound : (set assignmentId { recovered with content := "" } s.assignments).lookup
      other = some b := hname ▸ hb
  rw [lookup_set] at hfound
  split at hfound
  . cases hfound
    rw [hrecov] at hcurr
    cases hcurr
  . next hne =>
    obtain ⟨signed, hopen⟩ := h.isOpen other b hfound hcurr hfinal
    refine ⟨signed, hopen.congr ?_ rfl ?_⟩
    . simp only [Mesh.finishSettlement, State.putAssignment, State.purgeSignedEnvelopes,
        State.votesOn, lookup_erase, if_neg hne]
    . exact hcleared.absent_iff.mpr ⟨hopen.absent, fun heq => hne heq.symm⟩

theorem Inv.withPending (h : Inv c s) (pending : List (String × Dict))
    : Inv c { s with store := { s.store with pending := pending } } where
  sound := h.sound
  readable := h.readable
  isOpen other b hb hcurr hfinal :=
    (h.isOpen other b hb hcurr hfinal).imp fun _ hopen => hopen.congr rfl rfl hopen.absent

theorem Inv.persistFrozen (h : Inv c s) (hrecov : frozen.recoveredAssignment.isRecovered)
    (hname : frozen.recoveredAssignment.assignmentId = assignmentId)
    (hrec : frozen.settledRecord = issuedRecord c frozen.recoveredAssignment result [])
    : Inv c (persistFrozen c s assignmentId frozen).1 := by
  unfold Mesh.persistFrozen
  split
  . exact h
  . next store hok =>
    simp only [persistSettlementRecord, hrec, itemText_issuedRecord, ok_bind] at hok
    split at hok
    . simp at hok
    . subst hname
      have hid := itemText_issuedRecord c frozen.recoveredAssignment result []
      have happends := SettlementStore.appends_of_persistBound hok hid
      exact h.finishSettlement hrecov rfl happends

theorem Inv.settle (h : Inv c s) (now : ℚ) : Inv c (settle c s assignmentId now).1 := by
  unfold Mesh.settle
  split
  . exact h
  . exact h
  . next frozen hfreeze =>
    obtain ⟨a, hfound, hfinal, hcurr, hrecov, _, hrec⟩ := freeze_frozen hfreeze
    obtain ⟨_, hopen⟩ := h.isOpen assignmentId a hfound hcurr hfinal
    rw [hrecov, hopen.issued.recovered.buildSettlementRecord_eq_ok, ← hrecov] at hrec
    unfold settleFrozen
    split
    . exact h
    . next store hmarked =>
      obtain ⟨pending, rfl⟩ := SettlementStore.markPending_eq_ok hmarked
      have hmarked := h.withPending pending
      split
      . exact hmarked
      . next t hinstall =>
        have ht : Inv c t := by
          unfold install at hinstall
          split at hinstall
          . simp at hinstall
          . obtain rfl := Sum.inr.inj hinstall
            exact hmarked.rememberFinalResult _
        exact ht.persistFrozen (by rw [hrecov]) (by rw [hrecov, hopen.name])
          hrec.2.symm

variable [Platform.Lawful]

theorem Inv.requestValidation (h : Inv c s) (hc : c.Valid)
    (hfresh : s.voteEnvelopes.lookup req.assignmentId = none)
    (habsent : s.store.Absent req.assignmentId)
    (hok : requestValidation c s req = .ok (a, t)) : Inv c t := by
  simp only [Mesh.requestValidation, bind_eq_ok, exists_unit, pure_inj, Prod.mk.injEq] at hok
  obtain ⟨_, -, -, -, -, _, -, -, _, -, hselected, issued, hsigned, rfl, rfl⟩ := hok
  obtain ⟨hname, -, signed, hissued⟩ :=
    signRequest_issued hc (validateSelectedPeers_eq_ok hselected) hsigned
  refine ⟨h.sound, h.readable, ?_⟩
  intro other b hb hbcurrent hfinal
  simp only [State.putAssignment, lookup_set] at hb
  split at hb
  . next heq =>
    cases hb
    have henvs : s.envelopesOn other = [] := by
      rw [State.envelopesOn, heq, hname, hfresh, Option.getD_none]
    have hempty : Ballots c issued (s.envelopesOn other) := by
      rw [henvs]
      exact Ballots.nil
    refine ⟨signed, heq.symm, hissued, hempty, ?_, ?_⟩
    . show ((set _ [] s.votes).lookup other |>.getD []).map _ = (s.envelopesOn other).map _
      rw [henvs, heq, lookup_set, if_pos rfl]
      rfl
    . rw [heq, hname]
      exact habsent
  . next hne =>
    obtain ⟨signed', hopen⟩ := h.isOpen other b hb hbcurrent hfinal
    refine ⟨signed', hopen.congr ?_ rfl hopen.absent⟩
    simp only [State.votesOn, State.putAssignment, lookup_set, if_neg hne]

theorem Inv.step (h : Inv c s) (hc : c.Valid) (hfresh : Fresh s action)
    (hstep : step c s action = .ok t) : Inv c t := by
  cases action with
  | registerRemoteAgent agentId key =>
    simp only [Mesh.step, registerRemoteAgent, bind_eq_ok, pure_inj] at hstep
    obtain ⟨agentId, -, key, -, reg, hreplace, rfl⟩ := hstep
    exact h.frame (h.sound.replace hreplace) rfl rfl rfl rfl rfl
  | registerLocalSigner agentId key =>
    simp only [Mesh.step, registerLocalSigner, bind_eq_ok, pure_inj] at hstep
    obtain ⟨agentId, -, reg, hreplace, rfl⟩ := hstep
    exact h.frame (h.sound.replace hreplace) rfl rfl rfl rfl rfl
  | unregisterAgent agentId =>
    simp only [Mesh.step, unregisterAgent, bind_eq_ok, pure_inj] at hstep
    obtain ⟨agentId, -, reg, hunregister, rfl⟩ := hstep
    exact h.frame (h.sound.unregister hunregister).1 rfl rfl rfl rfl rfl
  | requestValidation req =>
    obtain ⟨⟨a, t⟩, hok, rfl⟩ := Except.map_eq_ok.mp hstep
    exact h.requestValidation hc hfresh.1 hfresh.2 hok
  | signVote assignmentId voterId approved reason nonce now =>
    obtain ⟨⟨sig, t⟩, hok, rfl⟩ := Except.map_eq_ok.mp hstep
    obtain ⟨_, rfl⟩ := signVote_eq_ok hok
    exact h.frame h.sound rfl rfl rfl rfl rfl
  | submitVote assignmentId voterId approved reason sig now =>
    obtain ⟨⟨vote, t⟩, hok, rfl⟩ := Except.map_eq_ok.mp hstep
    rw [recordVote, bind_eq_ok] at hok
    obtain ⟨a, htarget, hok⟩ := hok
    obtain ⟨hfinal, hfound, hcurr, hvoter⟩ := voteTarget_eq_ok htarget
    obtain ⟨signed, hopen⟩ := h.isOpen _ _ hfound hcurr hfinal
    split at hok
    . simp at hok
    . next verified hver =>
      obtain ⟨hfits, hsigned, rfl⟩ := hopen.issued.verifySubmittedVote_eq_ok hvoter h.sound hver
      exact h.recordVerifiedVote hfinal hfound hcurr hfits hsigned hok
  | submitVoteEnvelope env now =>
    obtain ⟨⟨vote, t⟩, hok, rfl⟩ := Except.map_eq_ok.mp hstep
    simp only [recordVoteEnvelope, bind_eq_ok, exists_unit, verifyVoteEnvelope_eq_ok] at hok
    obtain ⟨a, htarget, key, ⟨hauthn, -⟩, hmeta, hok⟩ := hok
    obtain ⟨hfinal, hfound, hcurr, hvoter⟩ := voteTarget_eq_ok htarget
    obtain ⟨signed, hopen⟩ := h.isOpen _ _ hfound hcurr hfinal
    obtain ⟨hvers, hdig, helectorate⟩ :=
      hopen.issued.verifyEnvelopeAssignmentMetadata_eq_ok hmeta
    exact h.recordVerifiedVote hfinal hfound hcurr
      ⟨hauthn.bound, hvers, hdig, helectorate, hvoter⟩ (hauthn.signed h.sound) hok
  | settle assignmentId now =>
    cases hstep
    exact h.settle now
  | halt =>
    cases hstep
    exact h.frame h.sound rfl rfl rfl rfl rfl
  | resume =>
    cases hstep
    exact h.frame h.sound rfl rfl rfl rfl rfl

def Run (c : Config) : State → State → Prop :=
  Transition.Run (Mesh.step c) Fresh

structure Initial (s : State) : Prop where
  sound : s.registry.Sound
  readable : s.store.Readable
  recovered : ∀ assignmentId a, s.assignments.lookup assignmentId = some a → a.isRecovered = true

omit [Platform.Lawful] in
theorem Initial.inv (h : Initial s) : Inv c s where
  sound := h.sound
  readable := h.readable
  isOpen assignmentId a hfound hcurr _ := by
    rw [h.recovered assignmentId a hfound] at hcurr
    cases hcurr

theorem Run.inv (hc : c.Valid) (hs : Initial s) (hrun : Run c s t) : Inv c t :=
  Transition.Run.invariant (fun _ _ _ hfresh hstep h => Inv.step h hc hfresh hstep) hrun hs.inv

end Runs

end Mesh
