import ConstitutionalSwarm.Mesh.Ballots
import ConstitutionalSwarm.Mesh.RoundTrip

namespace Mesh

open Raising List
open PyValue (Dict)

theorem uniqueOutcome_eq_ok {count}
    (h : uniqueOutcome count quorum approvals denials = .ok accepted)
    : if accepted then denials < approvals else 0 < denials ∧ approvals ≤ denials := by
  simp only [uniqueOutcome] at h
  split at h
  . simp at h
  . next hne =>
    rw [Except.ok.injEq] at h
    subst h
    simp only [ge_iff_le, decide_eq_decide, max_le_iff] at hne
    split <;> simp_all <;> omega

variable [Platform]

def Custody (c : Config) (s : State) (a : PeerAssignment) : Prop :=
  c.evidenceMode = .singleOperatorDev ∨
    a.peers.countP (fun peer => (s.privateKeys.lookup peer).isSome) ≤ 1

def issuedRecord (c : Config) (a : PeerAssignment) (result : MeshResult)
    (votes : List VoteEnvelope) : SettlementRecord where
  assignment := assignmentToDict a (rosterHash a.peers) a.quorum c.evidenceMode
  result := serializeResult result
  constitutionalHash := .str a.constitutionalHash
  schemaVersion := 2
  isRecovered := a.isRecovered
  receiptDigest := none
  votes := voteDicts votes

variable {c : Config} {s : State} {a : PeerAssignment} {signed : SignedAssignment}
  {result : MeshResult} {votes : List VoteEnvelope} {r : Registry}

theorem Issued.assignmentEvidenceMode_eq_ok (ha : Issued c a signed) {mode}
    : assignmentEvidenceMode c s a = .ok mode ↔ Custody c s a ∧ c.evidenceMode = mode := by
  simp only [assignmentEvidenceMode, bind_eq_ok, exists_unit, raiseIf_eq_ok, pure_inj, ha.mode,
    Option.getD_some, decide_eq_false_iff_not, not_and_or, not_lt, ne_eq, not_not, Custody, or_comm]

theorem Issued.buildSettlementRecord_eq_ok (ha : Issued c a signed) {record}
    : buildSettlementRecord c s a result = .ok record ↔
      Custody c s a ∧ issuedRecord c a result [] = record := by
  simp only [buildSettlementRecord, serializeAssignment, ha.peersHash, ok_bind, bind_eq_ok,
    ha.assignmentEvidenceMode_eq_ok, pure_inj, ha.effectiveQuorum_eq]
  constructor
  . rintro ⟨_, ⟨mode, ⟨hcustody, rfl⟩, rfl⟩, rfl⟩
    exact ⟨hcustody, rfl⟩
  . rintro ⟨hcustody, rfl⟩
    exact ⟨_, ⟨_, ⟨hcustody, rfl⟩, rfl⟩, rfl⟩

structure Tallied (a : PeerAssignment) (votes : List VoteEnvelope)
    (result : MeshResult) : Prop where
  votesFor : result.votesFor = (countApproved votes : ℕ)
  votesAgainst : result.votesAgainst = (votes.length - countApproved votes : ℕ)
  outcome : uniqueOutcome a.peers.length a.quorum (countApproved votes)
    (votes.length - countApproved votes) = .ok result.accepted

structure Receivable (c : Config) (r : Registry) (a : PeerAssignment) (votes : List VoteEnvelope)
    : Prop where
  producer : IsIdentity a.producerId ∧ a.producerId ≠ c.rootId
  separate : Separate c r
  voters : ∀ vote ∈ votes, vote.keyId ≠ c.assignerKeyId ∧
    ∃ key, r.authorize vote.voterId vote.keyId "validator" = .ok key ∧
      key.verifies vote.signature (canonicalVoteEnvelopeBytes vote.toEnvelopeFields false) = true

theorem receivable_recovered
    : Receivable c r { a with isRecovered := true } votes ↔ Receivable c r a votes :=
  ⟨fun h => { h with }, fun h => { h with }⟩

theorem mapM_voteEnvelopeFromDict (votes : List VoteEnvelope)
    : (voteDicts votes).mapM voteEnvelopeFromDict = .ok votes := by
  have h : votes.mapM (voteEnvelopeFromDict ∘ fun vote : VoteEnvelope =>
      voteEnvelopeToDict vote.toEnvelopeFields) = .ok (votes.map id) :=
    Except.mapM_of_forall fun vote _ => voteEnvelopeFromDict_toDict vote
  rwa [map_id, ← mapM_map] at h

theorem mapM_envelopeOf_object (votes : List VoteEnvelope)
    : (votes.map Input.object).mapM envelopeOf = .ok votes := by
  have h : votes.mapM (envelopeOf ∘ Input.object) = .ok (votes.map id) :=
    Except.mapM_of_forall fun _ _ => rfl
  rwa [map_id, ← mapM_map] at h

theorem Issued.checkAssignedPeers_peers (ha : Issued c a signed)
    : checkAssignedPeers (.list (a.peers.map .str)) a.producerId = .ok a.peers := by
  obtain ⟨hne, hnodup, -⟩ := ha.roster
  have hprod : signed.producerId ∉ a.peers := ha.peers ▸ signed.isValid.producer_notMem
  have helems : (a.peers.map PyValue.str).isEmpty = false := by simpa using hne
  have hpeers := Except.mapM_of_forall (ε := PyError) (g := id)
    (f := fun peer => do
      let normalized ← normalizeVoterId peer
      raiseIf (peer ≠ normalized)
        (.valueError "assigned peer identities must already be canonical")
      return normalized)
    (l := a.peers) fun peer hpeer => by
      simp [show normalizeVoterId peer = .ok peer from ha.identities peer hpeer, raiseIf]
  rw [map_id] at hpeers
  simp only [checkAssignedPeers, helems, Bool.false_eq_true, if_false, ok_bind, mapM_map]
  erw [hpeers]
  simp only [ok_bind, ha.producer, hnodup, hprod, raiseIf, not_true_eq_false, decide_false,
    Bool.false_eq_true, if_false, pure_eq_ok]

theorem verifyBoundVoteEnvelopes_eq_ok [Platform.Lawful] (ha : Issued c a signed)
    (h : Ballots c a votes) (hall : votes.length = a.peers.length) (hc : IsIdentity c.rootId)
    (hsound : r.Sound) (hsep : Separate c r)
    : verifyBoundVoteEnvelopes (signedAssignmentToDict signed.toAssignmentFields) (voteDicts votes)
        (signerGrants c r) a.binding a.peers (some a.quorum)
        (c.evidenceMode ≠ .singleOperatorDev) = .ok verified ↔
      Receivable c r a votes ∧ votes = verified := by
  obtain ⟨registry, hreg, hr⟩ := hsep.exists_voteRegistry hc hsound
  have hdicts : (voteDicts votes).isEmpty = false := by
    simpa [voteDicts] using Ballots.ne_nil ha hall
  have hpeersNe : c.rootId ∉ a.peers := by
    rw [ha.peers, ← ha.assigner]
    exact signed.isValid.assigner_notMem
  have hseparate : ∀ vote ∈ votes, ∀ key,
      registry.authorize vote.voterId vote.keyId "voter" = .ok key →
        vote.keyId ≠ c.assignerKeyId ∧ key ≠ Platform.publicKey c.assignerKey := by
    intro vote hvote key hkey
    refine ⟨((hr.authorize_voter hsound).mp hkey).2, ?_⟩
    rintro rfl
    obtain ⟨_, hname, -, _, hgrant, -, -, hgrantKey⟩ := Registry.authorize_eq_ok.mp hkey
    rw [show normalizeVoterId vote.voterId = .ok vote.voterId from vote.isValid.voter] at hname
    have hroot := hr.sound.keys _ _ _ _ hgrant (hr.lookup_assigner hsound) hgrantKey
    rw [← hroot, ← Except.ok.inj hname] at hpeersNe
    exact hpeersNe (h.assigned vote hvote)
  have hauthn : ∀ vote ∈ votes, (∃ key, Authentic registry a.binding "voter" vote key) ↔
      vote.keyId ≠ c.assignerKeyId ∧
      ∃ key, r.authorize vote.voterId vote.keyId "validator" = .ok key ∧
        key.verifies vote.signature (canonicalVoteEnvelopeBytes vote.toEnvelopeFields false) := by
    intro vote hvote
    constructor
    . rintro ⟨key, hkey, -, hverif⟩
      obtain ⟨hvalidator, hne⟩ := (hr.authorize_voter hsound).mp hkey
      exact ⟨hne, key, hvalidator, hverif⟩
    . rintro ⟨hne, key, hvalidator, hverif⟩
      exact ⟨key, (hr.authorize_voter hsound).mpr ⟨hvalidator, hne⟩, h.bound vote hvote, hverif⟩
  have hauth : ∀ {options : VerifyOptions} {verified}, options.assignerTrustRoot = none →
      options.expectedAssignerId = none → options.expectedAssignerKeyId = none →
      (verifyAssignmentAuthority (.object signed) registry a.binding options = .ok verified ↔
        (IsIdentity a.producerId ∧ a.producerId ≠ c.rootId) ∧
          (signed, Platform.publicKey c.assignerKey) = verified) := by
    intro options verified hroot hassigner hassignerKey
    rw [verifyAssignmentAuthority, hroot, hassigner, hassignerKey]
    exact ha.verifySignedAssignment_eq_ok hc hr.sound (hr.lookup_assigner hsound) rfl rfl
  simp only [verifyBoundVoteEnvelopes, hdicts, raiseIf, Bool.false_eq_true, if_false,
    mapM_voteEnvelopeFromDict, signedAssignmentFromDict_toDict, hreg, ok_bind]
  constructor
  . intro hver
    obtain ⟨⟨_, hok⟩, -⟩ := verifyAssignmentVoteEnvelopes_decoded hver
    obtain ⟨hprod, rfl⟩ := (hauth rfl rfl rfl).mp hok
    rw [h.verify_eq_ok ha hall hr.sound (mapM_envelopeOf_object votes) rfl rfl rfl rfl hok
      hseparate] at hver
    obtain ⟨hvotes, rfl⟩ := hver
    exact ⟨⟨hprod, hsep, fun vote hvote => (hauthn vote hvote).mp (hvotes vote hvote)⟩, rfl⟩
  . rintro ⟨hrecv, rfl⟩
    rw [h.verify_eq_ok ha hall hr.sound (mapM_envelopeOf_object votes) rfl rfl rfl rfl
      ((hauth rfl rfl rfl).mpr ⟨hrecv.producer, rfl⟩) hseparate]
    exact ⟨fun vote hvote => (hauthn vote hvote).mpr (hrecv.voters vote hvote), rfl⟩

theorem countVotes_approve (votes : List VoteEnvelope)
    : countVotes (votes.map projectVote) .approve = countApproved votes := by
  rw [countVotes, countApproved, countP_map]
  congr 1
  funext vote
  cases h : vote.approved <;> simp [projectVote, h]

theorem countVotes_deny (votes : List VoteEnvelope)
    : countVotes (votes.map projectVote) .deny = votes.length - countApproved votes := by
  have hdeny : countVotes (votes.map projectVote) .deny =
      votes.countP fun vote => ¬vote.approved := by
    rw [countVotes, countP_map]
    congr 1
    funext vote
    cases h : vote.approved <;> simp [projectVote, h]
  have htotal := length_eq_countP_add_countP VoteEnvelope.approved (l := votes)
  rw [hdeny, countApproved]
  omega

theorem ne_empty_of_normalizeVoterId [Platform.Lawful]
    (h : normalizeVoterId name = .ok normalized) : name ≠ "" := by
  rintro rfl
  rw [normalizeVoterId, Platform.Lawful.nfkc_plain "" rfl] at h
  simp [Platform.Lawful.strip_plain "" rfl, Platform.Lawful.casefold_plain "" rfl] at h

theorem sha256Hex_ne_empty (data : Bytes) : sha256Hex data ≠ "" := by
  intro h
  have hlen := Hex.length_of_isCanonical (isCanonical_sha256 data)
  rw [show Hex.encode (Apcc.Platform.sha256 data) = "" from h] at hlen
  exact absurd hlen (by decide)

section Receipts

variable [Interpreter]

theorem recordBinding_issuedRecord
    : recordBinding (issuedRecord c a result votes) = a.binding := by
  simp only [recordBinding, issuedRecord, assignmentToDict, getText, Assoc.lookup_cons,
    String.reduceEq, if_true, if_false, PyValue.text, PeerAssignment.binding]

def issuedPayload (c : Config) (a : PeerAssignment) (signed : SignedAssignment)
    (result : MeshResult) (votes : List VoteEnvelope) (first : VoteEnvelope) : ReceiptPayload where
  receiptId := "mesh-" ++ a.assignmentId
  action := a.artifactId
  policyVersion := "local-constitution"
  policyHash := a.constitutionalHash
  roles := settlementRoles a.producerId first.voterId
  evidenceHashes :=
    [("settlement", settlementRecordDigest (issuedRecord c a result votes) (voteDicts votes)),
      ("content", a.contentHash)]
  decision := if result.accepted then .approved else .denied
  validatorVotes := votes.map projectVote
  voteEnvelopes := some (voteDicts votes)
  assignedPeers := some a.peers
  signedAssignment := some (signedAssignmentToDict signed.toAssignmentFields)
  rejectedAlternative := "execute-without-settlement"
  previousReceiptHash := none
  metadata := settlementMetadata a.binding a.peers.length a.quorum c.evidenceMode

variable {first : VoteEnvelope}

theorem settlementPayload_issuedRecord
    (h : first.electorate = ⟨rosterHash a.peers, a.peers.length, a.quorum, c.evidenceMode⟩)
    : settlementPayload (issuedRecord c a result votes) a.peers
        (signedAssignmentToDict signed.toAssignmentFields) votes first result.accepted
        (settlementRecordDigest (issuedRecord c a result votes) (voteDicts votes)) =
      issuedPayload c a signed result votes first := by
  have haction : getText (issuedRecord c a result votes).assignment "artifact_id"
      a.assignmentId = a.artifactId := by
    simp only [issuedRecord, assignmentToDict, getText, Assoc.lookup_cons, String.reduceEq, if_true,
      if_false, PyValue.text]
  have hcontent : getText (issuedRecord c a result votes).assignment "content_hash" "none" =
      a.contentHash := by
    simp only [issuedRecord, assignmentToDict, getText, Assoc.lookup_cons, String.reduceEq, if_true,
      if_false, PyValue.text]
  have hid : a.binding.assignmentId = a.assignmentId := rfl
  rw [settlementPayload, recordBinding_issuedRecord, hid, haction, hcontent, h]
  rfl

variable [Platform.Lawful]

omit [Interpreter] in
theorem validateReceiptPayload_issuedPayload (h : Ballots c a votes) (ht : Tallied a votes result)
    : validateReceiptPayload (issuedPayload c a signed result votes first) = .ok () := by
  have hids : (votes.map projectVote).map (fun vote => normalizeRole vote.validatorId) =
      votes.map (·.voterId) := by
    rw [map_map]
    exact map_congr_left fun vote _ => vote.isValid.voter.normalizeRole_eq
  have hblank : (votes.map (·.voterId)).any (fun id => decide (id = "")) = false := by
    simp only [any_map, any_eq_false, Function.comp_apply, decide_eq_true_eq]
    exact fun vote _ => vote.isValid.voter.ne_empty
  have hsupported : decisionSupported (issuedPayload c a signed result votes first) = true := by
    have hout := uniqueOutcome_eq_ok ht.outcome
    rw [decisionSupported, show (issuedPayload c a signed result votes first).validatorVotes =
      votes.map projectVote from rfl, countVotes_approve, countVotes_deny]
    rw [show (issuedPayload c a signed result votes first).decision =
      if result.accepted then .approved else .denied from rfl]
    cases hres : result.accepted <;> simp_all
  have hissues :
      receiptPayloadSemanticIssues (issuedPayload c a signed result votes first) = [] := by
    rw [receiptPayloadSemanticIssues, hsupported, show (issuedPayload c a signed result votes
      first).validatorVotes = votes.map projectVote from rfl, hids, hblank]
    simp [h.nodup]
  rw [validateReceiptPayload, hissues]
  rfl

omit [Interpreter] in
theorem buildPayload_issuedPayload (ha : Issued c a signed) (h : Ballots c a votes)
    (hne : votes ≠ []) (hprod : IsIdentity a.producerId) (ht : Tallied a votes result)
    : buildPayload (issuedPayload c a signed result votes first) =
      .ok (issuedPayload c a signed result votes first) := by
  obtain ⟨-, -, hart, hcontent, hconst⟩ := ha.texts
  have hflds : (issuedPayload c a signed result votes first).validateFields = .ok () := by
    have hdig : settlementRecordDigest (issuedRecord c a result votes) (voteDicts votes) ≠ "" :=
      sha256Hex_ne_empty _
    have hvoter := first.isValid.voter.ne_empty
    have hproducerNe := hprod.ne_empty
    have hrationale : ∀ vote : VoteEnvelope, (projectVote vote).rationale ≠ "" := by
      intro vote
      by_cases hreason : vote.reason = "" <;> simp [projectVote, hreason]
    have hvalidator : (settlementRoles a.producerId first.voterId).validator.identityId ≠ "" := by
      unfold settlementRoles
      split
      . exact hvoter
      . exact show "mesh-validator" ≠ "" by decide
    simp only [ReceiptPayload.validateFields, bind_eq_ok, exists_unit, raiseIf_eq_ok, issuedPayload]
    refine ⟨?_, ?_, ?_, rfl, ?_, ?_⟩
    . simp [hart, hconst]
    . simp [Roles.entries, hvalidator]
      simp [settlementRoles, hproducerNe]
    . simp [hrationale]
    . simp [hdig, hcontent]
    . simpa using hne
  have hvotes : ((votes.map projectVote).mapM fun vote => do
      let validatorId ← normalizeVoterId vote.validatorId
      return { vote with validatorId } : Py (List ValidatorVote)) =
      .ok (votes.map projectVote) := by
    rw [mapM_map]
    apply Except.mapM_of_forall
    intro vote _
    rw [Function.comp_apply, show normalizeVoterId (projectVote vote).validatorId =
      .ok (projectVote vote).validatorId from vote.isValid.voter]
    rfl
  have hvalid : validateReceiptPayload (issuedPayload c a signed result votes first) = .ok () :=
    validateReceiptPayload_issuedPayload h ht
  rw [buildPayload, hflds, ok_bind, show (issuedPayload c a signed result votes
    first).validatorVotes = votes.map projectVote from rfl, hvotes, ok_bind]
  exact bind_eq_ok.mpr ⟨(), hvalid, rfl⟩

theorem receiptOfEnvelopes_issuedRecord (ha : Issued c a signed)
    (h : Ballots c a (first :: rest)) (hprod : IsIdentity a.producerId)
    (ht : Tallied a (first :: rest) result) (signatures : List SignatureRecord)
    : receiptOfEnvelopes (issuedRecord c a result (first :: rest)) a.peers
        (signedAssignmentToDict signed.toAssignmentFields) signatures (first :: rest) =
      buildReceipt (issuedPayload c a signed result (first :: rest) first) signatures := by
  have hfirst := h.electorate first (by simp)
  have hquorum : ¬first.electorate.quorum < 3 := by
    rw [hfirst]
    exact not_lt.mpr ha.proofGrade
  have hfor : tallyMatches ((issuedRecord c a result (first :: rest)).result.get "votes_for")
      (countApproved (first :: rest)) := by
    simp only [issuedRecord, serializeResult, PyValue.Dict.get, Assoc.lookup_cons, String.reduceEq,
      if_true, if_false, Option.getD_some, tallyMatches, ht.votesFor, decide_true]
  have hagainst : tallyMatches
      ((issuedRecord c a result (first :: rest)).result.get "votes_against")
      ((first :: rest).length - countApproved (first :: rest)) := by
    simp only [issuedRecord, serializeResult, PyValue.Dict.get, Assoc.lookup_cons, String.reduceEq,
      if_true, if_false, Option.getD_some, tallyMatches, ht.votesAgainst, decide_true]
  have hacc : acceptedOf ((issuedRecord c a result (first :: rest)).result.get "accepted") =
      .ok result.accepted := by
    simp only [issuedRecord, serializeResult, PyValue.Dict.get, Assoc.lookup_cons, String.reduceEq,
      if_true, if_false, Option.getD_some, acceptedOf]
  have hout : uniqueOutcome a.peers.length first.electorate.quorum
      (countApproved (first :: rest)) ((first :: rest).length - countApproved (first :: rest)) =
      .ok result.accepted := by
    rw [hfirst]
    exact ht.outcome
  have hdig : settlementCanonicalDigest (issuedRecord c a result (first :: rest))
      (voteDicts (first :: rest)) = .ok (settlementRecordDigest
        (issuedRecord c a result (first :: rest)) (voteDicts (first :: rest))) := rfl
  simp only [receiptOfEnvelopes, hquorum, hfor, hagainst, hacc, hout, hdig, raiseIf,
    decide_false, Bool.false_eq_true, if_false, Apcc.ensure_true, ok_bind, ne_eq,
    not_true_eq_false, settlementPayload_issuedRecord hfirst,
    buildPayload_issuedPayload ha h (cons_ne_nil _ _) hprod ht]

theorem receiptFromMeshSettlement_eq_ok (ha : Issued c a signed)
    (h : Ballots c a (first :: rest)) (hall : (first :: rest).length = a.peers.length)
    (ht : Tallied a (first :: rest) result) (hc : IsIdentity c.rootId) (hsound : r.Sound)
    : receiptFromMeshSettlement (issuedRecord c a result (first :: rest))
        (voteDicts (first :: rest)) signatures (receiptTrustRegistry c r)
        (c.evidenceMode ≠ .singleOperatorDev) = .ok receipt ↔
      Receivable c r a (first :: rest) ∧
        buildReceipt (issuedPayload c a signed result (first :: rest) first) signatures =
          .ok receipt := by
  obtain ⟨htask, hid, hart, hcontent, hconst⟩ :
      a.binding.taskId ≠ "" ∧ a.binding.assignmentId ≠ "" ∧ a.binding.artifactId ≠ "" ∧
        a.binding.contentHash ≠ "" ∧ a.binding.constitutionalHash ≠ "" := ha.texts
  have hprod : a.binding.producerId ≠ "" := ne_empty_of_normalizeVoterId ha.producer
  have hsigned : rawSignedAssignmentOf
      ((issuedRecord c a result (first :: rest)).assignment.get "signed_assignment") =
      .ok (signedAssignmentToDict signed.toAssignmentFields) := by
    simp only [issuedRecord, assignmentToDict, PyValue.Dict.get, Assoc.lookup_cons, String.reduceEq,
      if_true, if_false, Option.getD_some, ha.evidence, serializeSigned, rawSignedAssignmentOf]
  have hpeers : checkAssignedPeers
    ((issuedRecord c a result (first :: rest)).assignment.get "peers")
      a.binding.producerId = .ok a.peers := by
    simp only [issuedRecord, assignmentToDict, PyValue.Dict.get, Assoc.lookup_cons,
      String.reduceEq, if_true, if_false, Option.getD_some]
    exact ha.checkAssignedPeers_peers
  have hquorum : expectedQuorumOf
      ((issuedRecord c a result (first :: rest)).assignment.get "quorum") =
      .ok (some a.quorum) := by
    simp only [issuedRecord, assignmentToDict, PyValue.Dict.get, Assoc.lookup_cons,
      String.reduceEq, if_true, if_false, Option.getD_some, expectedQuorumOf]
  have hvers : (issuedRecord c a result (first :: rest)).schemaVersion = 2 := rfl
  have hempty : (voteDicts (first :: rest)).isEmpty = false := rfl
  simp only [receiptFromMeshSettlement, recordBinding_issuedRecord, htask, hid, hprod,
    hart, hcontent, hconst, hvers, hempty, hsigned, hpeers, hquorum, raiseIf,
    ne_eq, not_true_eq_false, or_self, decide_false, Bool.false_eq_true, if_false, ok_bind,
    bind_eq_ok, parseTrustGrants_receiptTrustRegistry hc hsound]
  constructor
  . rintro ⟨_, ⟨hsep, rfl⟩, _, hver, hreceipt⟩
    obtain ⟨hrecv, rfl⟩ :=
      (verifyBoundVoteEnvelopes_eq_ok ha h hall hc hsound hsep).mp hver
    rw [receiptOfEnvelopes_issuedRecord ha h hrecv.producer.1 ht] at hreceipt
    exact ⟨hrecv, hreceipt⟩
  . rintro ⟨hrecv, hreceipt⟩
    have hsep := hrecv.separate
    refine ⟨_, ⟨hsep, rfl⟩, _,
      (verifyBoundVoteEnvelopes_eq_ok ha h hall hc hsound hsep).mpr ⟨hrecv, rfl⟩, ?_⟩
    rw [receiptOfEnvelopes_issuedRecord ha h hrecv.producer.1 ht]
    exact hreceipt

end Receipts

end Mesh
