import ConstitutionalSwarm.Mesh.Assignment
import ConstitutionalSwarm.Mesh.Evidence

namespace Mesh

open PyValue (sortTexts)

theorem two_mul_sub_le_card_inter {α : Type} [DecidableEq α] {s t u : Finset α} {q : ℕ}
    (hs : s ⊆ u) (ht : t ⊆ u) (hqs : q ≤ s.card) (hqt : q ≤ t.card)
    : 2 * q - u.card ≤ (s ∩ t).card := by
  have hunion : (s ∪ t).card ≤ u.card := Finset.card_le_card (Finset.union_subset hs ht)
  have hsum := Finset.card_union_add_card_inter s t
  omega

variable [Platform]

def votersFor (decision : Decision) (votes : List VoteEnvelope) : Finset String :=
  ((votes.filter (·.decision = decision)).map (·.voterId)).toFinset

theorem mem_votersFor
    : voter ∈ votersFor dec votes ↔
      ∃ vote ∈ votes, vote.decision = dec ∧ vote.voterId = voter := by
  simp [votersFor, and_assoc]

theorem card_votersFor (h : (votes.map (·.voterId)).Nodup)
    : (votersFor dec votes).card = (votes.filter (·.decision = dec)).length := by
  rw [votersFor, List.toFinset_card_of_nodup, List.length_map]
  exact h.sublist (List.filter_sublist.map _)

def SignedVote (assignment : SignedAssignment) (key : PublicKey) (voter : String)
    (decision : Decision) (votes : List VoteEnvelope) : Prop :=
  ∃ vote ∈ votes, vote.voterId = voter ∧ vote.decision = decision ∧
    vote.assignmentDigest = signedAssignmentDigest assignment.toAssignmentFields ∧
    vote.binding = assignment.binding ∧
    key.verifies vote.signature (canonicalVoteEnvelopeBytes vote.toEnvelopeFields false) = true

namespace ProofGrade

variable {assignment : SignedAssignment} {registry : Registry} {role : String}
  {mode : EvidenceMode} {votes : List VoteEnvelope}

def roster (votes : List VoteEnvelope) : List String :=
  sortTexts (votes.map (·.voterId))

theorem voters_perm (h : ProofGrade assignment registry role mode votes)
    (hinj : Set.InjOn Apcc.Platform.sha256 inputs) (hvotes : rosterPayload (roster votes) ∈ inputs)
    (hpeers : rosterPayload assignment.assignedPeers ∈ inputs)
    : (votes.map (·.voterId)).Perm assignment.assignedPeers := by
  have hhash := Hex.encode_injective h.complete.voters_hash
  have hroster : roster votes = assignment.assignedPeers :=
    rosterPayload_injective (hinj hvotes hpeers hhash)
  rw [← hroster]
  exact (sortTexts_perm _).symm

theorem votersFor_subset (hperm : (votes.map (·.voterId)).Perm assignment.assignedPeers)
    (dec : Decision) : votersFor dec votes ⊆ assignment.assignedPeers.toFinset := by
  intro voter hvoter
  obtain ⟨_, hvote, -, rfl⟩ := mem_votersFor.mp hvoter
  rw [List.mem_toFinset, ← hperm.mem_iff]
  exact List.mem_map_of_mem hvote

theorem signedVote (h : ProofGrade assignment registry role mode votes)
    (hvoter : voter ∈ votersFor dec votes)
    : ∃ key, registry.publicKeyForIdentity voter = .ok (some key) ∧
      SignedVote assignment key voter dec votes := by
  obtain ⟨vote, hvote, hdecision, rfl⟩ := mem_votersFor.mp hvoter
  obtain ⟨key, hauthn⟩ := h.authentic vote hvote
  obtain ⟨identity, hident, -, grant, hgrant, -, -, rfl⟩ :=
    Registry.authorize_eq_ok.mp hauthn.authorized
  obtain rfl : vote.voterId = identity :=
    Except.ok.inj (vote.isValid.voter.symm.trans hident)
  refine ⟨grant.key, ?_, vote, hvote, rfl, hdecision, h.digest vote hvote, hauthn.bound,
    hauthn.verifies⟩
  rw [Registry.publicKeyForIdentity_of_identity vote.isValid.voter, hgrant, Option.map_some]

end ProofGrade

theorem PeerAssignment.settlementOutcomes_of_voters (meshQuorum : Int) (assignment : PeerAssignment)
    {votes : List (String × Bool)} (hnodup : (votes.map Prod.fst).Nodup)
    (hassigned : ∀ vote ∈ votes, vote.1 ∈ assignment.peers)
    : assignment.settlementOutcomes meshQuorum (votes.filter Prod.snd).length
        (votes.filter (!·.2)).length ≠ (true, true) := by
  apply settlementOutcomes_exclusive
  have hlen : (votes.filter Prod.snd).length + (votes.filter (!·.2)).length = votes.length :=
    (List.length_eq_length_filter_add Prod.snd).symm
  have hsubset : votes.map Prod.fst ⊆ assignment.peers := by
    intro voter hvoter
    obtain ⟨vote, hvote, rfl⟩ := List.mem_map.mp hvoter
    exact hassigned vote hvote
  have hpeers := (List.subperm_of_subset hnodup hsubset).length_le
  rw [List.length_map] at hpeers
  omega

/--
Two sets of votes that are accepted for one assignment and settle it in opposite ways share at least
`2 * quorum - n ≥ 1` voters who signed both decisions with their one key, unless the hash collides
on the rosters. One set of votes of assigned peers never has both outcomes.
-/
theorem opposite_settlements_accountable {assignment : SignedAssignment}
    {input₁ input₂ : Input SignedAssignment} {envelopes₁ envelopes₂ : List (Input VoteEnvelope)}
    {registry₁ registry₂ : Registry} {binding₁ binding₂ : Binding}
    {options₁ options₂ : VerifyOptions} {votes₁ votes₂ : List VoteEnvelope}
    (hinput₁ : assignmentOf input₁ = .ok assignment)
    (hinput₂ : assignmentOf input₂ = .ok assignment)
    (haccepts₁ : verifyAssignmentVoteEnvelopes input₁ envelopes₁ registry₁ binding₁ options₁ =
      .ok votes₁)
    (haccepts₂ : verifyAssignmentVoteEnvelopes input₂ envelopes₂ registry₂ binding₂ options₂ =
      .ok votes₂)
    (hkeys : ∀ voter ∈ assignment.assignedPeers,
      registry₁.publicKeyForIdentity voter = registry₂.publicKeyForIdentity voter)
    (hsha : Set.InjOn Apcc.Platform.sha256 {rosterPayload assignment.assignedPeers,
      rosterPayload (ProofGrade.roster votes₁), rosterPayload (ProofGrade.roster votes₂)})
    (hfor : assignment.quorum ≤ (votes₁.filter (·.decision = .approved)).length)
    (hagainst : assignment.quorum ≤ (votes₂.filter (·.decision = .denied)).length)
    : 1 ≤ 2 * assignment.quorum - assignment.assignedPeers.length ∧
      (∃ voters : Finset String,
        2 * assignment.quorum - assignment.assignedPeers.length ≤ voters.card ∧
        ∀ voter ∈ voters, voter ∈ assignment.assignedPeers ∧
          ∃ key, registry₁.publicKeyForIdentity voter = .ok (some key) ∧
            SignedVote assignment key voter .approved votes₁ ∧
            SignedVote assignment key voter .denied votes₂) ∧
      ∀ (meshQuorum : Int) (peerAssignment : PeerAssignment) (votes : List (String × Bool)),
        (votes.map Prod.fst).Nodup → (∀ vote ∈ votes, vote.1 ∈ peerAssignment.peers) →
        peerAssignment.settlementOutcomes meshQuorum (votes.filter Prod.snd).length
          (votes.filter (!·.2)).length ≠ (true, true) := by
  obtain ⟨_, h₁⟩ := verifyAssignmentVoteEnvelopes_proofGrade hinput₁ haccepts₁
  obtain ⟨_, h₂⟩ := verifyAssignmentVoteEnvelopes_proofGrade hinput₂ haccepts₂
  have hperm₁ := h₁.voters_perm hsha (by simp) (by simp)
  have hperm₂ := h₂.voters_perm hsha (by simp) (by simp)
  have hmaj := assignment.isValid.majority
  have hquorum := assignment.isValid.quorum
  refine ⟨by omega, ⟨votersFor .approved votes₁ ∩ votersFor .denied votes₂, ?_, ?_⟩, ?_⟩
  . have hpeers : assignment.assignedPeers.toFinset.card = assignment.assignedPeers.length :=
      List.toFinset_card_of_nodup (hperm₁.nodup_iff.mp h₁.complete.nodup_voters)
    have hcommon := two_mul_sub_le_card_inter (q := assignment.quorum.toNat)
      (ProofGrade.votersFor_subset hperm₁ .approved) (ProofGrade.votersFor_subset hperm₂ .denied)
      (by rw [card_votersFor h₁.complete.nodup_voters]; omega)
      (by rw [card_votersFor h₂.complete.nodup_voters]; omega)
    omega
  . intro voter hvoter
    obtain ⟨happroved, hdenied⟩ := Finset.mem_inter.mp hvoter
    have hassigned : voter ∈ assignment.assignedPeers :=
      List.mem_toFinset.mp (ProofGrade.votersFor_subset hperm₁ .approved happroved)
    obtain ⟨key, hkey, hsigned⟩ := h₁.signedVote happroved
    obtain ⟨_, hkey', hsigned'⟩ := h₂.signedVote hdenied
    -- both registries give the voter one key
    rw [← hkeys voter hassigned, hkey] at hkey'
    obtain rfl := Option.some.inj (Except.ok.inj hkey')
    exact ⟨hassigned, key, hkey, hsigned, hsigned'⟩
  . intro meshQuorum peerAssignment votes hnodup hvoters
    exact peerAssignment.settlementOutcomes_of_voters meshQuorum hnodup hvoters

end Mesh

namespace Mesh.Sample

def envelopes (decision : Voter → Decision) : List VoteEnvelope :=
  [Voter.x, .y, .z].map fun voter => envelope voter (decision voter)

theorem roster_envelopes (decision : Voter → Decision)
    : ProofGrade.roster (envelopes decision) = ["x", "y", "z"] :=
  sortTexts_voters

theorem acceptable_envelopes (decision : Voter → Decision)
    : Acceptable assignment (publicKey 1) registry {} (envelopes decision) where
  proofGrade := by
    refine ⟨.independent, ⟨⟨?_, ?_, nofun, rfl, ?_, ?_⟩, ?_, ?_, ?_⟩, fun _ => rfl⟩
    . exact (by decide : ["x", "y", "z"].Nodup)
    . simp [envelopes, envelope, envelopeFields, publicKey_injective.eq_iff, Voter.byte]
    . exact congrArg rosterHash (roster_envelopes decision)
    all_goals
      intro vote hvote
      obtain ⟨voter, -, rfl⟩ := List.mem_map.mp hvote
    . rfl
    . rfl
    . rfl
    . exact ⟨publicKey voter.byte, authorize_voter voter, rfl, verifies_zeros _ _⟩
  peers := rfl
  quorum := nofun
  producer := by
    intro vote hvote
    obtain ⟨voter, -, rfl⟩ := List.mem_map.mp hvote
    exact (by cases voter <;> decide : voter.name ≠ "p")
  separate := by
    intro vote hvote key hauthn
    obtain ⟨voter, -, rfl⟩ := List.mem_map.mp hvote
    obtain rfl := Except.ok.inj ((authorize_voter voter).symm.trans hauthn.authorized)
    have hkeys : publicKey voter.byte ≠ publicKey 1 :=
      publicKey_injective.ne (by cases voter <;> decide)
    exact ⟨fun h => hkeys (keyIdForPublicKey_inj.mp h), hkeys⟩

theorem verifyAssignmentVoteEnvelopes_envelopes (decision : Voter → Decision)
    : verifyAssignmentVoteEnvelopes (.object assignment) ((envelopes decision).map .object) registry
      assignment.binding {} = .ok (envelopes decision) :=
  verifyAssignmentVoteEnvelopes_of_acceptable verifySignedAssignment_assignment rfl
    (acceptable_envelopes decision)

def approval : Voter → Decision
  | .x | .y => .approved
  | .z => .denied

def denial : Voter → Decision
  | .x => .approved
  | .y | .z => .denied

theorem opposite_settlements_accountable_envelopes
    : ∃ voters : Finset String, (1 : ℤ) ≤ voters.card ∧
      ∀ voter ∈ voters, voter ∈ assignment.assignedPeers ∧
        ∃ key, registry.publicKeyForIdentity voter = .ok (some key) ∧
          SignedVote assignment key voter .approved (envelopes approval) ∧
          SignedVote assignment key voter .denied (envelopes denial) := by
  have hinput : assignmentOf (.object assignment) = .ok assignment := rfl
  have h := opposite_settlements_accountable hinput hinput
    (verifyAssignmentVoteEnvelopes_envelopes approval)
    (verifyAssignmentVoteEnvelopes_envelopes denial) (fun _ _ => rfl)
    (by simp [roster_envelopes, assignment, assignmentFields]) (by decide) (by decide)
  exact h.2.1

end Mesh.Sample
