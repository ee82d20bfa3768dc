import ConstitutionalSwarm.Mesh.VoteEnvelope

namespace Mesh

open Raising List
open PyValue (sortTexts)

theorem hexOf_eq_ok {length}
    : hexOf value length name = .ok result ↔
      Hex.isCanonical length value ∧ value = result := by
  unfold hexOf
  split
  . next h => simp [h]
  . next h => simp [h]

theorem publicKeyFrom_encode (key : PublicKey)
    : publicKeyFrom (.text (Hex.encode key.raw)) = .ok key := by
  have hcanon : Hex.isCanonical 64 (Hex.encode key.raw) = true :=
    Hex.isCanonical_encode (by rw [key.length_raw])
  have htext : hexOf (Hex.encode key.raw) 64 "public key" = .ok (Hex.encode key.raw) :=
    hexOf_eq_ok.mpr ⟨hcanon, rfl⟩
  rw [publicKeyFrom, htext, ok_bind, Hex.decode_encode, Option.getD_some, publicKeyFromRaw,
    dif_pos key.length_raw]

theorem requireTexts_eq_ok
    : requireTexts entries = .ok u ↔ ∀ e ∈ entries, e.2 ≠ "" := by
  simp only [requireTexts, Except.forM_eq_ok, raiseIf_eq_ok, decide_eq_false_iff_not, ne_eq]

theorem Binding.require_eq_ok
    : Binding.require kind actual expected = .ok u ↔ actual = expected := by
  rw [require, Except.forM_eq_ok]
  cases actual
  cases expected
  simp [entries]

theorem sortTexts_perm (texts : List String) : (sortTexts texts).Perm texts :=
  mergeSort_perm texts _

theorem rosterPayload_injective : Function.Injective rosterPayload := by
  intro a b h
  have htext := String.encodeUTF8_injective (append_cancel_left h)
  have hcanon : ∀ roster : List String, (Json.arr (roster.map .str)).Canonical := by
    intro roster
    apply Json.canonical_arr
    intro v hv
    obtain ⟨_, -, rfl⟩ := mem_map.mp hv
    apply Json.canonical_str
  have helems := Json.arr.inj (Json.eq_of_dumps_eq (hcanon a) (hcanon b) htext)
  exact map_injective_iff.mpr (fun _ _ => Json.str.inj) helems

variable [Platform]
  {votes : List VoteEnvelope} {registry : Registry} {binding : Binding} {role : String}

def IsIdentity (name : String) : Prop :=
  normalizeVoterId name = .ok name

theorem isCanonical_sha256 (value : Bytes)
    : Hex.isCanonical 64 (Hex.encode (Apcc.Platform.sha256 value)) = true :=
  Hex.isCanonical_encode (by rw [Apcc.Platform.length_sha256])

def rosterHash (roster : List String) : String :=
  Hex.encode (Apcc.Platform.sha256 (rosterPayload roster))

theorem canonicalAssignedPeers_of_identities
    (h : ∀ peer ∈ peers, IsIdentity peer) (hne : peers ≠ []) (hnodup : peers.Nodup)
    : canonicalAssignedPeers peers = .ok (sortTexts peers) := by
  have hnormal : peers.mapM normalizeVoterId = .ok peers := by
    have hmap := Except.mapM_of_forall (f := normalizeVoterId) (g := id) h
    rwa [map_id] at hmap
  simp [canonicalAssignedPeers, hnormal, raiseIf, hne, hnodup]

theorem canonicalAssignedPeersHash_of_canonical (h : canonicalAssignedPeers peers = .ok roster)
    : canonicalAssignedPeersHash peers = .ok (rosterHash roster) := by
  rw [canonicalAssignedPeersHash, h]
  rfl

structure AssignmentFields.Valid (item : AssignmentFields) : Prop where
  version : item.protocolVersion = 1
  assigner : IsIdentity item.assignerId
  keyId : Hex.isCanonical 64 item.keyId = true
  texts : ∀ e ∈ [("task_id", item.taskId), ("assignment_id", item.assignmentId),
    ("producer_id", item.producerId), ("artifact_id", item.artifactId),
    ("content_hash", item.contentHash), ("constitutional_hash", item.constitutionalHash),
    ("selection_seed", item.selectionSeed)], e.2 ≠ ""
  peers : canonicalAssignedPeers item.assignedPeers = .ok item.assignedPeers
  producer : IsIdentity item.producerId
  producer_notMem : item.producerId ∉ item.assignedPeers
  assigner_notMem : item.assignerId ∉ item.assignedPeers
  quorum : 1 ≤ item.quorum ∧ item.quorum ≤ item.assignedPeers.length
  majority : (item.assignedPeers.length / 2 : ℕ) < item.quorum
  finite : item.issuedAt.isFinite = true
  signature : Hex.isCanonical 128 item.signature = true

theorem validateAssignment_eq_ok
    : validateAssignment item = .ok u ↔ item.Valid := by
  simp only [validateAssignment, bind_eq_ok, exists_unit, raiseIf_eq_ok, ensure_eq_ok, hexOf_eq_ok,
    requireTexts_eq_ok, decide_eq_false_iff_not, decide_eq_true_eq, not_not, ne_eq, not_le]
  constructor
  . rintro ⟨hvers, _, hassigner, rfl, _, ⟨hkey, -⟩, htexts, _, hpeers, rfl, _, hprod, rfl,
      hproducerOut, hassignerOut, hquorum, hmaj, hfinite, _, ⟨hsig, -⟩, -⟩
    exact ⟨hvers, hassigner, hkey, htexts, hpeers, hprod, hproducerOut, hassignerOut,
      hquorum, hmaj, hfinite, hsig⟩
  . intro h
    exact ⟨h.version, _, h.assigner, rfl, _, ⟨h.keyId, rfl⟩, h.texts, _, h.peers, rfl, _,
      h.producer, rfl, h.producer_notMem, h.assigner_notMem, h.quorum, h.majority, h.finite, _,
      ⟨h.signature, rfl⟩, rfl⟩

theorem SignedAssignment.isValid (item : SignedAssignment) : item.toAssignmentFields.Valid :=
  validateAssignment_eq_ok.mp item.valid

theorem SignedAssignment.ofFields_eq_ok
    : SignedAssignment.ofFields fields = .ok item ↔ item.toAssignmentFields = fields := by
  unfold SignedAssignment.ofFields
  split
  . next h =>
    rw [Except.ok.injEq]
    constructor
    . rintro rfl
      rfl
    . rintro rfl
      rfl
  . next e h =>
    refine ⟨nofun, ?_⟩
    rintro rfl
    simp [item.valid] at h

structure EnvelopeFields.Valid (item : EnvelopeFields) : Prop where
  version : item.protocolVersion = 2 ∨ item.protocolVersion = 3
  voter : IsIdentity item.voterId
  keyId : Hex.isCanonical 64 item.keyId = true
  hash : Hex.isCanonical 64 item.electorate.assignedPeersHash = true
  count : 1 ≤ item.electorate.assignedPeerCount
  quorum : 1 ≤ item.electorate.quorum ∧
    item.electorate.quorum ≤ item.electorate.assignedPeerCount
  majority : item.electorate.assignedPeerCount / 2 < item.electorate.quorum
  texts : ∀ e ∈ item.binding.entries ++ [("nonce", item.nonce)], e.2 ≠ ""
  finite : item.issuedAt.isFinite = true
  signature : Hex.isCanonical 128 item.signature = true
  digest : if item.protocolVersion = 3 then Hex.isCanonical 64 item.assignmentDigest = true
    else item.assignmentDigest = ""

theorem validateEnvelope_eq_ok
    : validateEnvelope item = .ok u ↔ item.Valid := by
  have hlast : (if item.protocolVersion = 3 then do
      let _ ← hexOf item.assignmentDigest 64 "assignment_digest"
    else raiseIf (item.assignmentDigest ≠ "")
      (.valueError "legacy vote envelope must not contain assignment_digest")) = .ok u ↔
      if item.protocolVersion = 3 then Hex.isCanonical 64 item.assignmentDigest = true
      else item.assignmentDigest = "" := by
    split
    . simp [bind_eq_ok, hexOf_eq_ok]
    . simp
  simp only [validateEnvelope, bind_eq_ok, exists_unit, raiseIf_eq_ok, ensure_eq_ok, hexOf_eq_ok,
    requireTexts_eq_ok, decide_eq_false_iff_not, decide_eq_true_eq, not_not, ne_eq, not_le, not_lt]
    at hlast ⊢
  constructor
  . rintro ⟨hvers, _, hvoter, rfl, _, ⟨hkey, -⟩, _, ⟨hhash, -⟩, hcount, hquorum, hmaj,
      htexts, hfinite, _, ⟨hsig, -⟩, hdig⟩
    exact ⟨hvers, hvoter, hkey, hhash, hcount, hquorum, hmaj, htexts, hfinite, hsig, hlast.mp hdig⟩
  . intro h
    exact ⟨h.version, _, h.voter, rfl, _, ⟨h.keyId, rfl⟩, _, ⟨h.hash, rfl⟩, h.count, h.quorum,
      h.majority, h.texts, h.finite, _, ⟨h.signature, rfl⟩, hlast.mpr h.digest⟩

theorem VoteEnvelope.isValid (item : VoteEnvelope) : item.toEnvelopeFields.Valid :=
  validateEnvelope_eq_ok.mp item.valid

theorem VoteEnvelope.ofFields_eq_ok
    : VoteEnvelope.ofFields fields = .ok item ↔ item.toEnvelopeFields = fields := by
  unfold VoteEnvelope.ofFields
  split
  . next h =>
    rw [Except.ok.injEq]
    constructor
    . rintro rfl
      rfl
    . rintro rfl
      rfl
  . next e h =>
    refine ⟨nofun, ?_⟩
    rintro rfl
    simp [item.valid] at h

theorem VoteEnvelope.exists_ofFields (h : fields.Valid)
    : ∃ item, VoteEnvelope.ofFields fields = .ok item :=
  ⟨⟨fields, validateEnvelope_eq_ok.mpr h⟩, VoteEnvelope.ofFields_eq_ok.mpr rfl⟩

theorem EnvelopeFields.Valid.signedWith {fields : EnvelopeFields} (h : fields.Valid)
    (key : PrivateKey) : (fields.signedWith key).Valid :=
  { h with signature := Hex.isCanonical_encode (by rw [Platform.length_sign]) }

theorem exists_signVoteEnvelope {key : PrivateKey} {voterId : String} {dec : Decision}
    {reason nonce : String} {issuedAt : PyFloat} {assignedPeers : List String} {quorum : Int}
    {mode : EvidenceMode} {digest : String}
    (hpeers : canonicalAssignedPeers assignedPeers = .ok assignedPeers)
    (hvoter : IsIdentity voterId)
    (hvalid : (unsignedVote key voterId binding dec reason nonce issuedAt
      ⟨rosterHash assignedPeers, assignedPeers.length, quorum, mode⟩ digest).Valid)
    : ∃ item, signVoteEnvelope key voterId binding dec reason nonce issuedAt assignedPeers
        quorum mode digest = .ok item ∧
      item.toEnvelopeFields = (unsignedVote key voterId binding dec reason nonce issuedAt
        ⟨rosterHash assignedPeers, assignedPeers.length, quorum, mode⟩ digest).signedWith key := by
  obtain ⟨_, hunsigned⟩ := VoteEnvelope.exists_ofFields hvalid
  obtain ⟨signed, hsigned⟩ := VoteEnvelope.exists_ofFields (hvalid.signedWith key)
  refine ⟨signed, ?_, VoteEnvelope.ofFields_eq_ok.mp hsigned⟩
  simp only [signVoteEnvelope, hpeers, show normalizeVoterId voterId = .ok voterId from hvoter,
    canonicalAssignedPeersHash_of_canonical hpeers, ok_bind, hunsigned,
    VoteEnvelope.ofFields_eq_ok.mp hunsigned, hsigned]

theorem Registry.authorize_eq_ok {r : Registry} {voterId keyId role : String} {key : PublicKey}
    : r.authorize voterId keyId role = .ok key ↔
      ∃ ident, normalizeVoterId voterId = .ok ident ∧ Hex.isCanonical 64 keyId ∧
        ∃ grant, r.identities.lookup ident = some grant ∧ grant.keyId = keyId ∧
          normalizeRole role ∈ grant.roles ∧ grant.key = key := by
  simp only [authorize, bind_eq_ok, hexOf_eq_ok]
  constructor
  . rintro ⟨ident, hident, _, ⟨hkeyId, rfl⟩, h⟩
    refine ⟨ident, hident, hkeyId, ?_⟩
    split at h
    . simp at h
    . next grant hgrant =>
      simp only [bind_eq_ok, exists_unit, raiseIf_eq_ok, ensure_eq_ok, decide_eq_false_iff_not,
        not_not, decide_eq_true_eq, pure_inj, ne_eq] at h
      exact ⟨grant, hgrant, h⟩
  . rintro ⟨ident, hident, hkeyId, grant, hgrant, hgrantKey, hrole, hkey⟩
    refine ⟨ident, hident, _, ⟨hkeyId, rfl⟩, ?_⟩
    simp [hgrant, hgrantKey, hrole, hkey, raiseIf]

theorem Registry.publicKeyForIdentity_of_identity {r : Registry} {name : String}
    (h : IsIdentity name)
    : r.publicKeyForIdentity name = .ok ((r.identities.lookup name).map Grant.key) := by
  rw [publicKeyForIdentity, h]
  rfl

structure Authentic (registry : Registry) (binding : Binding) (role : String) (item : VoteEnvelope)
    (key : PublicKey) : Prop where
  authorized : registry.authorize item.voterId item.keyId role = .ok key
  bound : item.binding = binding
  verifies : key.verifies item.signature
    (canonicalVoteEnvelopeBytes item.toEnvelopeFields false) = true

theorem verifyVoteEnvelope_eq_ok
    : verifyVoteEnvelope item registry binding role digest = .ok key ↔
      Authentic registry binding role item key ∧ ∀ d ∈ digest, item.assignmentDigest = d := by
  simp only [verifyVoteEnvelope, bind_eq_ok, exists_unit, raiseIf_eq_ok, ensure_eq_ok,
    Binding.require_eq_ok, pure_inj]
  have hdig : (digest.any fun d => decide (item.assignmentDigest ≠ d)) = false ↔
      ∀ d ∈ digest, item.assignmentDigest = d := by
    cases digest <;> simp
  constructor
  . rintro ⟨_, hauthorized, hbound, hd, hverif, rfl⟩
    exact ⟨⟨hauthorized, hbound, hverif⟩, hdig.mp hd⟩
  . rintro ⟨h, hd⟩
    exact ⟨key, h.authorized, h.bound, hdig.mpr hd, h.verifies, rfl⟩

structure ElectorateVotes (peers : List String) (quorum : Int) (mode : EvidenceMode)
    (votes : List VoteEnvelope) : Prop where
  nodup_voters : (votes.map (·.voterId)).Nodup
  nodup_keys : (votes.map (·.keyId)).Nodup
  ne_nil : votes ≠ []
  length_eq : votes.length = peers.length
  voters_hash : rosterHash (sortTexts (votes.map (·.voterId))) = rosterHash peers
  electorate : ∀ vote ∈ votes, vote.electorate = ⟨rosterHash peers, peers.length, quorum, mode⟩

theorem commonElectorate_eq_ok
    : commonElectorate votes = .ok electorate ↔
      votes ≠ [] ∧ ∀ vote ∈ votes, vote.electorate = electorate := by
  cases votes with
  | nil => simp [commonElectorate]
  | cons first rest =>
    simp only [commonElectorate, bind_eq_ok, exists_unit, raiseIf_eq_ok, pure_inj, any_eq_false,
      decide_eq_true_eq, not_not, ne_eq, reduceCtorEq, not_false_eq_true, true_and, forall_mem_cons]
    constructor
    . rintro ⟨hrest, rfl⟩
      exact ⟨rfl, hrest⟩
    . rintro ⟨rfl, hrest⟩
      exact ⟨hrest, rfl⟩

theorem requireExpectedPeers_eq_ok (hpeers : canonicalAssignedPeers peers = .ok peers)
    : requireExpectedPeers electorate (some peers) = .ok u ↔
      electorate.assignedPeerCount = peers.length ∧
        electorate.assignedPeersHash = rosterHash peers := by
  simp only [requireExpectedPeers, hpeers, canonicalAssignedPeersHash_of_canonical hpeers,
    ok_bind, raiseIf_eq_ok, decide_eq_false_iff_not, not_or, not_not, ne_eq]
  constructor
  . rintro ⟨hcount, hhash⟩
    exact ⟨hcount.symm, hhash.symm⟩
  . rintro ⟨hcount, hhash⟩
    exact ⟨hcount.symm, hhash.symm⟩

theorem canonicalAssignedPeersHash_voters (hne : votes ≠ [])
    (hnodup : (votes.map (·.voterId)).Nodup)
    : canonicalAssignedPeersHash (votes.map (·.voterId)) =
      .ok (rosterHash (sortTexts (votes.map (·.voterId)))) := by
  apply canonicalAssignedPeersHash_of_canonical
  apply canonicalAssignedPeers_of_identities
  . intro voter hvoter
    obtain ⟨vote, -, rfl⟩ := mem_map.mp hvoter
    exact vote.isValid.voter
  . simpa using hne
  . exact hnodup

theorem verifyVoteEnvelopes_eq_ok (hpeers : canonicalAssignedPeers peers = .ok peers)
    : verifyVoteEnvelopes votes registry binding role (some peers) (some quorum) independent =
        .ok verified ↔
      (∃ mode, ElectorateVotes peers quorum mode votes ∧
        (independent = true → mode = .independent)) ∧
      (∃ prod, normalizeVoterId binding.producerId = .ok prod ∧
        ∀ vote ∈ votes, vote.voterId ≠ prod) ∧
      verified.map Prod.fst = votes ∧
      ∀ p ∈ verified, Authentic registry binding role p.1 p.2 := by
  simp only [verifyVoteEnvelopes, bind_eq_ok, exists_unit, raiseIf_eq_ok, commonElectorate_eq_ok,
    requireExpectedPeers_eq_ok hpeers, Except.mapM_pair_eq_ok, verifyVoteEnvelope_eq_ok,
    decide_eq_false_iff_not, not_not, ne_eq, Option.any_some, any_eq_false,
    decide_eq_true_eq, not_and, Option.not_mem_none, IsEmpty.forall_iff, implies_true, and_true]
  constructor
  . rintro ⟨hvoters, hkeys, electorate, ⟨hne, helectorate⟩, hlen, _, hhash, rfl,
      ⟨hcount, hpeersHash⟩, hquorum, hmode, prod, hprod, hvoter, hver⟩
    rw [canonicalAssignedPeersHash_voters hne hvoters, Except.ok.injEq] at hhash
    refine ⟨⟨electorate.evidenceMode, ⟨hvoters, hkeys, hne, ?_, ?_, ?_⟩, hmode⟩,
      ⟨prod, hprod, hvoter⟩, hver⟩
    . omega
    . rw [hhash, hpeersHash]
    . intro vote hvote
      rw [helectorate vote hvote, ← hpeersHash, ← hcount, ← hquorum]
  . rintro ⟨⟨mode, h, hmode⟩, ⟨prod, hprod, hvoter⟩, hver⟩
    refine ⟨h.nodup_voters, h.nodup_keys, _, ⟨h.ne_nil, h.electorate⟩, ?_, _, ?_, rfl, ⟨rfl, rfl⟩,
      rfl, hmode, prod, hprod, hvoter, hver⟩
    . rw [h.length_eq]
    . rw [canonicalAssignedPeersHash_voters h.ne_nil h.nodup_voters, h.voters_hash]

theorem verifySignedAssignment_item
    (h : verifySignedAssignment input registry binding assigner assignerKey = .ok (item, key))
    : assignmentOf input = .ok item ∧ item.binding = binding := by
  simp only [verifySignedAssignment, bind_eq_ok, exists_unit, raiseIf_eq_ok, ensure_eq_ok,
    Binding.require_eq_ok, pure_inj, Prod.mk.injEq] at h
  obtain ⟨_, hitem, -, -, -, _, -, _, -, -, _, -, -, hbound, -, rfl, -⟩ := h
  exact ⟨hitem, hbound⟩

theorem verifyAssignmentAuthority_item
    (h : verifyAssignmentAuthority input registry binding options = .ok (item, key))
    : assignmentOf input = .ok item ∧ item.binding = binding := by
  unfold verifyAssignmentAuthority at h
  split at h
  . exact verifySignedAssignment_item h
  . simp only [bind_eq_ok, exists_unit, raiseIf_eq_ok, pure_inj] at h
    obtain ⟨-, ⟨_, _⟩, hver, _, -, -, hitem⟩ := h
    cases hitem
    exact verifySignedAssignment_item hver

structure ProofGrade (assignment : SignedAssignment) (registry : Registry) (role : String)
    (mode : EvidenceMode) (votes : List VoteEnvelope) : Prop where
  complete : ElectorateVotes assignment.assignedPeers assignment.quorum mode votes
  version : ∀ vote ∈ votes, vote.protocolVersion = 3
  digest : ∀ vote ∈ votes,
    vote.assignmentDigest = signedAssignmentDigest assignment.toAssignmentFields
  authentic : ∀ vote ∈ votes, ∃ key, Authentic registry assignment.binding role vote key

theorem verifyAssignmentVoteEnvelopes_proofGrade (hasg : assignmentOf input = .ok assignment)
    (h : verifyAssignmentVoteEnvelopes input envs registry binding options = .ok votes)
    : ∃ mode, ProofGrade assignment registry options.requiredRole mode votes := by
  simp only [verifyAssignmentVoteEnvelopes, bind_eq_ok, exists_unit, raiseIf_eq_ok, pure_inj,
    any_eq_false, decide_eq_true_eq, not_not, ne_eq] at h
  obtain ⟨⟨item, key⟩, hauth, dec, -, hvers, hdig, -, -, verified, hver, -,
    hvotes⟩ := h
  obtain ⟨hitem, hbound⟩ := verifyAssignmentAuthority_item hauth
  obtain rfl : item = assignment := Except.ok.inj (hitem.symm.trans hasg)
  obtain ⟨⟨mode, hcompl, -⟩, -, hdecoded, hauthn⟩ :=
    (verifyVoteEnvelopes_eq_ok item.isValid.peers).mp hver
  obtain rfl : dec = votes := hdecoded.symm.trans hvotes
  refine ⟨mode, hcompl, hvers, hdig, ?_⟩
  intro vote hvote
  rw [← hdecoded] at hvote
  obtain ⟨p, hp, rfl⟩ := mem_map.mp hvote
  exact ⟨p.2, hbound ▸ hauthn p hp⟩

structure Acceptable (assignment : SignedAssignment) (assignerKey : PublicKey)
    (registry : Registry) (options : VerifyOptions) (votes : List VoteEnvelope) : Prop where
  proofGrade : ∃ mode, ProofGrade assignment registry options.requiredRole mode votes ∧
    (options.requireIndependent = true → mode = .independent)
  peers : requireExpectedElectorate assignment.toAssignmentFields options.expectedAssignedPeers =
    .ok ()
  quorum : ∀ quorum ∈ options.expectedQuorum, quorum = assignment.quorum
  producer : ∀ vote ∈ votes, vote.voterId ≠ assignment.producerId
  separate : ∀ vote ∈ votes, ∀ key, Authentic registry assignment.binding options.requiredRole
    vote key → vote.keyId ≠ assignment.keyId ∧ key ≠ assignerKey

theorem verifyAssignmentVoteEnvelopes_of_acceptable
    (hauth : verifyAssignmentAuthority input registry binding options =
      .ok (assignment, assignerKey))
    (hdecoded : envs.mapM envelopeOf = .ok votes)
    (h : Acceptable assignment assignerKey registry options votes)
    : verifyAssignmentVoteEnvelopes input envs registry binding options = .ok votes := by
  obtain ⟨mode, hgrade, hmode⟩ := h.proofGrade
  obtain ⟨-, rfl⟩ := verifyAssignmentAuthority_item hauth
  obtain ⟨verified, hvotes, hauthn⟩ := Except.exists_pairs hgrade.authentic
  have hver : verifyVoteEnvelopes votes registry assignment.binding options.requiredRole
      (some assignment.assignedPeers) (some assignment.quorum) options.requireIndependent =
      .ok verified := by
    rw [verifyVoteEnvelopes_eq_ok assignment.isValid.peers]
    exact ⟨⟨mode, hgrade.complete, hmode⟩, ⟨_, assignment.isValid.producer, h.producer⟩, hvotes,
      hauthn⟩
  simp only [verifyAssignmentVoteEnvelopes, bind_eq_ok, exists_unit, raiseIf_eq_ok, pure_inj,
    any_eq_false, decide_eq_true_eq, not_not, ne_eq]
  refine ⟨_, hauth, votes, hdecoded, hgrade.version, hgrade.digest, h.peers, ?_, verified,
    hver, ?_, hvotes⟩
  . cases hquorum : options.expectedQuorum with
    | none => rfl
    | some quorum => simp [h.quorum quorum hquorum]
  . intro p hp
    have hvote : p.1 ∈ votes := hvotes ▸ mem_map_of_mem hp
    obtain ⟨hkeyId, hkey⟩ := h.separate p.1 hvote p.2 (hauthn p hp)
    simp [hkeyId, hkey]

end Mesh

namespace Mesh.Sample

open Raising
open PyValue (sortTexts)

def zeros (length : Nat) : String :=
  String.ofList (List.replicate length '0')

theorem isCanonical_zeros (length : Nat) : Hex.isCanonical length (zeros length) := by
  have hzero : Hex.isLower '0' := by decide
  simp [Hex.isCanonical, zeros, hzero]

@[simps]
def assignmentFields : AssignmentFields where
  protocolVersion := 1
  taskId := "t"
  assignmentId := "i"
  assignerId := "a"
  keyId := keyIdForPublicKey (publicKey 1)
  producerId := "p"
  artifactId := "t"
  contentHash := contentHash ""
  constitutionalHash := "c"
  assignedPeers := ["x", "y", "z"]
  quorum := 2
  selectionSeed := "s"
  issuedAt := .finite 0
  signature := zeros 128

theorem sortTexts_voters : sortTexts ["x", "y", "z"] = ["x", "y", "z"] :=
  List.mergeSort_of_pairwise (by decide)

theorem canonicalAssignedPeers_voters
    : canonicalAssignedPeers ["x", "y", "z"] = .ok ["x", "y", "z"] := by
  have h : canonicalAssignedPeers ["x", "y", "z"] = .ok (sortTexts ["x", "y", "z"]) :=
    canonicalAssignedPeers_of_identities (by simp [IsIdentity]) (by simp) (by simp)
  rwa [sortTexts_voters] at h

theorem contentHash_ne : contentHash "" ≠ "" := by
  have hlen : (Hex.encode (Apcc.Platform.sha256 "".encodeUTF8)).toList.length = 64 := by
    have h := isCanonical_sha256 "".encodeUTF8
    simp only [Hex.isCanonical, Bool.and_eq_true, decide_eq_true_eq] at h
    exact h.1
  intro h
  have htake := congrArg (fun s => s.toList.length) h
  simp [contentHash, hlen] at htake

@[simps toAssignmentFields]
def assignment : SignedAssignment where
  toAssignmentFields := assignmentFields
  valid := by
    rw [validateAssignment_eq_ok]
    exact {
      version := rfl
      assigner := normalizeVoterId_eq (by decide)
      keyId := isCanonical_sha256 _
      texts := by simp [assignmentFields, contentHash_ne]
      peers := canonicalAssignedPeers_voters
      producer := normalizeVoterId_eq (by decide)
      producer_notMem := by decide
      assigner_notMem := by decide
      quorum := by decide
      majority := by decide
      finite := rfl
      signature := isCanonical_zeros 128 }

inductive Voter where
  | x
  | y
  | z

namespace Voter

def name : Voter → String
  | x => "x"
  | y => "y"
  | z => "z"

def byte : Voter → UInt8
  | x => 3
  | y => 4
  | z => 5

theorem name_ne (v : Voter) : v.name ≠ "" := by
  cases v <;> decide

end Voter

def envelopeFields (voter : Voter) (decision : Decision) : EnvelopeFields where
  protocolVersion := 3
  voterId := voter.name
  keyId := keyIdForPublicKey (publicKey voter.byte)
  binding := assignment.binding
  electorate := ⟨rosterHash ["x", "y", "z"], 3, 2, .independent⟩
  decision := decision
  reason := ""
  nonce := "n"
  issuedAt := .finite 0
  signature := zeros 128
  assignmentDigest := signedAssignmentDigest assignment.toAssignmentFields

def envelope (voter : Voter) (decision : Decision) : VoteEnvelope where
  toEnvelopeFields := envelopeFields voter decision
  valid := by
    rw [validateEnvelope_eq_ok]
    exact {
      version := .inr rfl
      voter := normalizeVoterId_eq voter.name_ne
      keyId := isCanonical_sha256 _
      hash := isCanonical_sha256 _
      count := by simp [envelopeFields]
      quorum := by simp [envelopeFields]
      majority := by simp [envelopeFields]
      texts := by simp [envelopeFields, AssignmentFields.binding, Binding.entries, assignment,
        assignmentFields, contentHash_ne]
      finite := rfl
      signature := isCanonical_zeros 128
      digest := isCanonical_sha256 _ }

theorem lookup_assigner
    : registry.identities.lookup "a" = some (grant "a" 1 {"assigner"}) := rfl

theorem lookup_producer : registry.identities.lookup "p" = none := rfl

theorem authorize_assigner
    : registry.authorize "a" (keyIdForPublicKey (publicKey 1)) "assigner" = .ok (publicKey 1) := by
  rw [Registry.authorize_eq_ok]
  exact ⟨"a", normalizeVoterId_eq (by decide), isCanonical_sha256 _, _, lookup_assigner, rfl,
    by simp [grant], rfl⟩

theorem lookup_voter (v : Voter)
    : registry.identities.lookup v.name = some (grant v.name v.byte {"voter"}) := by
  cases v <;> rfl

theorem authorize_voter (v : Voter)
    : registry.authorize v.name (keyIdForPublicKey (publicKey v.byte)) "voter" =
      .ok (publicKey v.byte) := by
  rw [Registry.authorize_eq_ok]
  exact ⟨v.name, normalizeVoterId_eq v.name_ne, isCanonical_sha256 _, _, lookup_voter v, rfl,
    by simp [grant], rfl⟩

theorem encode_replicate (length : Nat)
    : Hex.encode (List.replicate length 0) = zeros (2 * length) := by
  rw [Hex.encode, zeros]
  congr 1
  induction length with
  | zero => rfl
  | succ length ih =>
    rw [List.replicate_succ, List.flatMap_cons, ih]
    rfl

theorem verifies_zeros (key : PublicKey) (message : Bytes)
    : key.verifies (zeros 128) message := by
  rw [PublicKey.verifies, show zeros 128 = Hex.encode (List.replicate 64 0) from
    (encode_replicate 64).symm, Hex.decode_encode]
  rfl

theorem verifySignedAssignment_assignment
    : verifySignedAssignment (.object assignment) registry assignment.binding none none =
      .ok (assignment, publicKey 1) := by
  have hprod : producerKeyMatches registry "p" (publicKey 1) = .ok false := by
    rw [producerKeyMatches, Registry.publicKeyForIdentity_of_identity
      (normalizeVoterId_eq (by decide)), lookup_producer]
    rfl
  simp only [verifySignedAssignment, bind_eq_ok, exists_unit, raiseIf_eq_ok, ensure_eq_ok,
    Binding.require_eq_ok, pure_inj]
  exact ⟨assignment, rfl, rfl, rfl, validateTrustRoot_registry, publicKey 1, authorize_assigner,
    "p", normalizeVoterId_eq (by decide), by decide, false, hprod, rfl, rfl,
    verifies_zeros _ _, rfl⟩

end Mesh.Sample
