import ConstitutionalSwarm.Mesh.Trust

/-!
This module contains the assignments that a mesh issues with the envelopes that it accepts for them,
and what the checks of evidence say about them when the whole electorate has voted.
-/

namespace Mesh

open Raising
open PyValue (sortTexts)

theorem sortTexts_congr (h : a.Perm b) : sortTexts a = sortTexts b := by
  have hperm : (sortTexts a).Perm (sortTexts b) :=
    (sortTexts_perm a).trans (h.trans (sortTexts_perm b).symm)
  exact hperm.eq_of_pairwise (fun _ _ _ _ => String.le_antisymm)
    (List.pairwise_mergeSort' (· ≤ ·) _) (List.pairwise_mergeSort' (· ≤ ·) _)

variable [Platform]

theorem canonicalAssignedPeers_eq_ok (h : ∀ peer ∈ peers, IsIdentity peer)
    : canonicalAssignedPeers peers = .ok roster ↔
      peers ≠ [] ∧ peers.Nodup ∧ sortTexts peers = roster := by
  have hnormal : peers.mapM normalizeVoterId = .ok peers := by
    have hmap := Except.mapM_of_forall (f := normalizeVoterId) (g := id) h
    rwa [List.map_id] at hmap
  simp [canonicalAssignedPeers, hnormal, ok_bind, bind_eq_ok, raiseIf_eq_ok]

structure Issued (c : Config) (a : PeerAssignment) (signed : SignedAssignment) : Prop where
  evidence : a.signedAssignment = some signed
  assigner : signed.assignerId = c.rootId
  keyId : signed.keyId = c.assignerKeyId
  verifies : (Platform.publicKey c.assignerKey).verifies signed.signature
    (canonicalSignedAssignmentBytes signed.toAssignmentFields false) = true
  binding : signed.binding = { a.binding with producerId := signed.producerId }
  producer : normalizeVoterId a.producerId = .ok signed.producerId
  peers : a.peers = signed.assignedPeers
  identities : ∀ peer ∈ a.peers, IsIdentity peer
  quorum : a.quorum = signed.quorum
  proofGrade : 3 ≤ a.quorum
  mode : a.evidenceMode = some c.evidenceMode
  constitution : a.constitutionalHash = c.constitutionalHash

namespace Issued

variable {c : Config} {a : PeerAssignment} {signed : SignedAssignment}

theorem canonical (h : Issued c a signed) : canonicalAssignedPeers a.peers = .ok a.peers := by
  rw [h.peers]
  exact signed.isValid.peers

theorem roster (h : Issued c a signed)
    : a.peers ≠ [] ∧ a.peers.Nodup ∧ sortTexts a.peers = a.peers :=
  (canonicalAssignedPeers_eq_ok h.identities).mp h.canonical

theorem peersHash (h : Issued c a signed)
    : canonicalAssignedPeersHash a.peers = .ok (rosterHash a.peers) :=
  canonicalAssignedPeersHash_of_canonical h.canonical

theorem effectiveQuorum_eq (h : Issued c a signed) : a.effectiveQuorum c.quorum = a.quorum := by
  rw [PeerAssignment.effectiveQuorum, if_pos]
  have := h.proofGrade
  omega

theorem digest_eq (h : Issued c a signed)
    : a.signedAssignmentDigest = signedAssignmentDigest signed.toAssignmentFields := by
  rw [PeerAssignment.signedAssignmentDigest, h.evidence]

theorem quorum_bounds (h : Issued c a signed)
    : (a.peers.length / 2 : ℕ) < a.quorum ∧ a.quorum ≤ a.peers.length := by
  have hvalid := signed.isValid
  rw [h.quorum, h.peers]
  exact ⟨hvalid.majority, hvalid.quorum.2⟩

theorem binding_eq_iff (h : Issued c a signed)
    : signed.binding = a.binding ↔ IsIdentity a.producerId := by
  have hprod : signed.producerId = a.producerId ↔ IsIdentity a.producerId := by
    rw [IsIdentity, h.producer, Except.ok.injEq]
  rw [← hprod, h.binding]
  constructor
  . exact congrArg Binding.producerId
  . intro heq
    rw [heq]
    rfl

theorem texts (h : Issued c a signed)
    : a.taskId ≠ "" ∧ a.assignmentId ≠ "" ∧ a.artifactId ≠ "" ∧ a.contentHash ≠ "" ∧
      a.constitutionalHash ≠ "" := by
  have htexts := signed.isValid.texts
  have hbinding := h.binding
  simp only [AssignmentFields.binding, PeerAssignment.binding, Binding.mk.injEq] at hbinding
  obtain ⟨htask, hid, -, hart, hcontent, hconst⟩ := hbinding
  simp only [List.forall_mem_cons, htask, hid, hart, hcontent, hconst] at htexts
  exact ⟨htexts.1, htexts.2.1, htexts.2.2.2.1, htexts.2.2.2.2.1, htexts.2.2.2.2.2.1⟩

theorem recovered (h : Issued c a signed) : Issued c { a with isRecovered := true } signed :=
  { h with }

end Issued

/-- The signature verifies under the key that the key id of the envelope names. -/
def VoteEnvelope.Signed (vote : VoteEnvelope) : Prop :=
  ∃ key, keyIdForPublicKey key = vote.keyId ∧
    key.verifies vote.signature (canonicalVoteEnvelopeBytes vote.toEnvelopeFields false) = true

theorem Authentic.signed {reg : Registry} {vote : VoteEnvelope}
    (h : Authentic reg binding role vote key) (hsound : reg.Sound) : vote.Signed := by
  obtain ⟨_, -, -, _, hgrant, hkeyId, -, rfl⟩ := Registry.authorize_eq_ok.mp h.authorized
  exact ⟨_, hkeyId ▸ (hsound.grants _ _ hgrant).2.keyId.symm, h.verifies⟩

structure Ballots (c : Config) (a : PeerAssignment) (votes : List VoteEnvelope) : Prop where
  bound : ∀ vote ∈ votes, vote.binding = a.binding
  version : ∀ vote ∈ votes, vote.protocolVersion = 3
  digest : ∀ vote ∈ votes, vote.assignmentDigest = a.signedAssignmentDigest
  electorate : ∀ vote ∈ votes,
    vote.electorate = ⟨rosterHash a.peers, a.peers.length, a.quorum, c.evidenceMode⟩
  nodup : (votes.map (·.voterId)).Nodup
  assigned : ∀ vote ∈ votes, vote.voterId ∈ a.peers
  signed : ∀ vote ∈ votes, vote.Signed

namespace Ballots

variable {c : Config} {a : PeerAssignment} {signed : SignedAssignment} {votes : List VoteEnvelope}

theorem recovered (h : Ballots c a votes) : Ballots c { a with isRecovered := true } votes :=
  { h with }

theorem voters_perm (h : Ballots c a votes) (hall : votes.length = a.peers.length)
    : (votes.map (·.voterId)).Perm a.peers := by
  have hsubset : votes.map (·.voterId) ⊆ a.peers := by
    intro voter hvoter
    obtain ⟨vote, hvote, rfl⟩ := List.mem_map.mp hvoter
    exact h.assigned vote hvote
  apply (List.subperm_of_subset h.nodup hsubset).perm_of_length_le
  rw [List.length_map, hall]

theorem ne_nil (ha : Issued c a signed) (hall : votes.length = a.peers.length) : votes ≠ [] := by
  rintro rfl
  exact ha.roster.1 (List.length_eq_zero_iff.mp hall.symm)

theorem electorateVotes (h : Ballots c a votes) (ha : Issued c a signed)
    (hall : votes.length = a.peers.length) (hkeys : (votes.map (·.keyId)).Nodup)
    : ElectorateVotes signed.assignedPeers signed.quorum c.evidenceMode votes where
  nodup_voters := h.nodup
  nodup_keys := hkeys
  ne_nil := ne_nil ha hall
  length_eq := by rw [hall, ha.peers]
  voters_hash := by rw [sortTexts_congr (h.voters_perm hall), ha.roster.2.2, ha.peers]
  electorate := by
    rw [← ha.peers, ← ha.quorum]
    exact h.electorate

end Ballots

section Verification

variable {c : Config} {a : PeerAssignment} {signed : SignedAssignment} {votes : List VoteEnvelope}
  {reg : Registry}

theorem nodup_keyIds (hsound : reg.Sound) (hnodup : (votes.map (·.voterId)).Nodup)
    (hvotes : ∀ vote ∈ votes, ∃ key, reg.authorize vote.voterId vote.keyId role = .ok key)
    : (votes.map (·.keyId)).Nodup := by
  apply List.Nodup.map_on _ hnodup.of_map
  intro vote hvote vote' hvote' hkeyId
  obtain ⟨_, hkey⟩ := hvotes vote hvote
  obtain ⟨_, hkey'⟩ := hvotes vote' hvote'
  obtain ⟨name, hname, -, _, hgrant, hgrantKey, -⟩ := Registry.authorize_eq_ok.mp hkey
  obtain ⟨name', hname', -, _, hgrant', hgrantKey', -⟩ := Registry.authorize_eq_ok.mp hkey'
  have heq : name = name' :=
    hsound.keyId_inj hgrant hgrant' (hgrantKey.trans (hkeyId.trans hgrantKey'.symm))
  rw [show normalizeVoterId vote.voterId = .ok vote.voterId from vote.isValid.voter] at hname
  rw [show normalizeVoterId vote'.voterId = .ok vote'.voterId from vote'.isValid.voter] at hname'
  apply List.inj_on_of_nodup_map hnodup hvote hvote'
  rw [Except.ok.inj hname, Except.ok.inj hname', heq]

theorem Issued.verifySignedAssignment_eq_ok [Platform.Lawful] (ha : Issued c a signed)
    (hc : IsIdentity c.rootId) (hsound : reg.Sound)
    (hroot : reg.identities.lookup c.rootId = some c.assignerGrant) {assigner assignerKey}
    (hassigner : requirePinnedAssigner signed.toAssignmentFields assigner = .ok ())
    (hassignerKey : requirePinnedAssignerKey signed.toAssignmentFields assignerKey = .ok ())
    {verified : SignedAssignment × PublicKey}
    : verifySignedAssignment (.object signed) reg a.binding assigner assignerKey =
        .ok verified ↔
      (IsIdentity a.producerId ∧ a.producerId ≠ c.rootId) ∧
        (signed, Platform.publicKey c.assignerKey) = verified := by
  have hauthorize : reg.authorize signed.assignerId signed.keyId "assigner" =
      .ok (Platform.publicKey c.assignerKey) := by
    rw [Registry.authorize_eq_ok, ha.assigner, normalizeRole_plain (by decide)]
    exact ⟨_, hc, signed.isValid.keyId, _, hroot, ha.keyId.symm, by simp [Config.assignerGrant],
      rfl⟩
  have hprod : normalizeVoterId signed.producerId = .ok signed.producerId :=
    signed.isValid.producer
  have hmatch : signed.assignerId ≠ signed.producerId →
      producerKeyMatches reg signed.producerId (Platform.publicKey c.assignerKey) =
        .ok false := by
    intro hne
    rw [producerKeyMatches, Registry.publicKeyForIdentity_of_identity hprod, ok_bind,
      pure_inj, decide_eq_false_iff_not]
    intro hkey
    obtain ⟨_, hgrant, hgrantKey⟩ := Option.map_eq_some_iff.mp hkey
    exact hne (ha.assigner.trans (hsound.keys _ _ _ _ hroot hgrant hgrantKey.symm))
  simp only [verifySignedAssignment, assignmentOf, hassigner, hassignerKey,
    hsound.validateTrustRoot, hauthorize, hprod, ok_bind, bind_eq_ok, exists_unit, raiseIf_eq_ok,
    ensure_eq_ok, Binding.require_eq_ok, pure_inj, decide_eq_false_iff_not, ha.verifies, true_and]
  have hname : IsIdentity a.producerId → signed.producerId = a.producerId := fun hident =>
    Except.ok.inj (ha.producer.symm.trans hident)
  constructor
  . rintro ⟨hne, _, -, -, hbinding, hver⟩
    have hident := ha.binding_eq_iff.mp hbinding
    refine ⟨⟨hident, ?_⟩, hver⟩
    rw [← hname hident, ← ha.assigner]
    exact fun heq => hne heq.symm
  . rintro ⟨⟨hident, hne⟩, hver⟩
    have hsep : signed.assignerId ≠ signed.producerId := by
      rw [ha.assigner, hname hident]
      exact hne.symm
    exact ⟨hsep, _, hmatch hsep, rfl, ha.binding_eq_iff.mpr hident, hver⟩

theorem verifyAssignmentVoteEnvelopes_decoded
    (h : verifyAssignmentVoteEnvelopes input envs reg binding options = .ok votes)
    : (∃ auth, verifyAssignmentAuthority input reg binding options = .ok auth) ∧
      envs.mapM envelopeOf = .ok votes := by
  simp only [verifyAssignmentVoteEnvelopes, bind_eq_ok, exists_unit, raiseIf_eq_ok, pure_inj] at h
  obtain ⟨⟨item, key⟩, hauth, dec, hdecoded, -, -, -, -, verified, hver, -,
    hvotes⟩ := h
  obtain ⟨-, -, hfst, -⟩ := (verifyVoteEnvelopes_eq_ok item.isValid.peers).mp hver
  exact ⟨⟨_, hauth⟩, by rw [hdecoded, ← hfst, hvotes]⟩

theorem Ballots.verify_eq_ok (h : Ballots c a votes) (ha : Issued c a signed)
    (hall : votes.length = a.peers.length) (hsound : reg.Sound)
    (hdecoded : envs.mapM envelopeOf = .ok votes)
    (hrole : options.requiredRole = "voter")
    (hindependent : options.requireIndependent = decide (c.evidenceMode ≠ .singleOperatorDev))
    (hpeers : options.expectedAssignedPeers = some a.peers)
    (hquorum : options.expectedQuorum = some a.quorum)
    (hauth : verifyAssignmentAuthority (.object signed) reg a.binding options =
      .ok (signed, Platform.publicKey c.assignerKey))
    (hsep : ∀ vote ∈ votes, ∀ key,
      reg.authorize vote.voterId vote.keyId "voter" = .ok key →
        vote.keyId ≠ c.assignerKeyId ∧ key ≠ Platform.publicKey c.assignerKey)
    : verifyAssignmentVoteEnvelopes (.object signed) envs reg a.binding options =
        .ok verified ↔
      (∀ vote ∈ votes, ∃ key, Authentic reg a.binding "voter" vote key) ∧
        votes = verified := by
  have hbinding : signed.binding = a.binding := (verifyAssignmentAuthority_item hauth).2
  constructor
  . intro hver
    obtain rfl := Except.ok.inj (hdecoded.symm.trans (verifyAssignmentVoteEnvelopes_decoded hver).2)
    obtain ⟨_, hgrade⟩ := verifyAssignmentVoteEnvelopes_proofGrade rfl hver
    rw [← hbinding, ← hrole]
    exact ⟨hgrade.authentic, rfl⟩
  . rintro ⟨hauthn, rfl⟩
    apply verifyAssignmentVoteEnvelopes_of_acceptable hauth hdecoded
    have hkeys := nodup_keyIds hsound h.nodup fun vote hvote =>
      (hauthn vote hvote).imp fun _ hkey => hkey.authorized
    exact {
      proofGrade := by
        refine ⟨c.evidenceMode, ⟨h.electorateVotes ha hall hkeys, h.version, ?_, ?_⟩, ?_⟩
        . rw [← ha.digest_eq]
          exact h.digest
        . rw [hbinding, hrole]
          exact hauthn
        . rw [hindependent, decide_eq_true_eq]
          cases c.evidenceMode <;> simp
      peers := by
        rw [hpeers, requireExpectedElectorate, ha.canonical, ok_bind, raiseIf_eq_ok, ha.peers]
        simp
      quorum := by simp [hquorum, ha.quorum]
      producer := by
        intro vote hvote heq
        apply signed.isValid.producer_notMem
        rw [← heq, ← ha.peers]
        exact h.assigned vote hvote
      separate := by
        intro vote hvote key hkey
        rw [ha.keyId]
        exact hsep vote hvote key (hrole ▸ hkey.authorized) }

end Verification

end Mesh
