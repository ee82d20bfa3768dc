import ConstitutionalSwarm.Mesh.Persistence

namespace Mesh

open Raising List
open PyValue (Dict)

variable [Platform] [Interpreter]

def signedReceipt (c : Config) (payload : ReceiptPayload) : GovernanceReceipt where
  payload := payload
  payloadDigest := payloadDigest payload
  signatures := [settlementSignature c payload]

def boundRecord (c : Config) (a : PeerAssignment) (signed : SignedAssignment) (result : MeshResult)
    (votes : List VoteEnvelope) (first : VoteEnvelope) : SettlementRecord :=
  { issuedRecord c a result votes with
    receiptDigest := some (payloadDigest (issuedPayload c a signed result votes first)) }

variable {c : Config} {s : State} {a : PeerAssignment} {signed : SignedAssignment}
  {result : MeshResult} {first : VoteEnvelope} {rest : List VoteEnvelope} {r : Registry}
  {store : SettlementStore}

theorem itemText_issuedRecord (c : Config) (a : PeerAssignment) (result : MeshResult)
    (votes : List VoteEnvelope)
    : itemText (issuedRecord c a result votes).assignment "assignment_id" = .ok a.assignmentId := by
  simp [issuedRecord, assignmentToDict, itemText, PyValue.Dict.item, Assoc.lookup_cons, ok_bind,
    pure_eq_ok, PyValue.text]

omit [Interpreter] in
theorem normalizeReceiptDigest_boundRecord (c : Config) (a : PeerAssignment)
    (signed : SignedAssignment) (result : MeshResult) (votes : List VoteEnvelope)
    (first : VoteEnvelope)
    : normalizeReceiptDigest (boundRecord c a signed result votes first).receiptDigest =
      .ok (boundRecord c a signed result votes first).receiptDigest := by
  have hne : payloadDigest (issuedPayload c a signed result votes first) ≠ "" :=
    sha256Hex_ne_empty _
  have hcanon : Hex.isCanonical 64
    (payloadDigest (issuedPayload c a signed result votes first)) = true := isCanonical_sha256 _
  rw [boundRecord, normalizeReceiptDigest, if_neg hne, if_pos hcanon]

omit [Interpreter] in
theorem exists_payload_boundRecord
    : ∃ payload, payloadFromRecord (boundRecord c a signed result votes first) = .ok payload := by
  rw [payloadFromRecord, normalizeReceiptDigest_boundRecord]
  exact ⟨_, rfl⟩

theorem recordFromPayload_boundRecord
    (h : payloadFromRecord (boundRecord c a signed result votes first) = .ok payload)
    : recordFromPayload payload = .ok (boundRecord c a signed result votes first) := by
  obtain ⟨_, hdig, hread⟩ := recordFromPayload_payloadFromRecord h
  rw [normalizeReceiptDigest_boundRecord, Except.ok.injEq] at hdig
  rw [hread, ← hdig]

section Receipts

variable [Platform.Lawful] (ha : Issued c a signed) (h : Ballots c a (first :: rest))
  (hall : (first :: rest).length = a.peers.length) (ht : Tallied a (first :: rest) result)
  (hc : IsIdentity c.rootId) (hsound : r.Sound)

include ha h hall ht hc hsound

theorem buildSettlementReceipt_eq_ok
    : buildSettlementReceipt c r (issuedRecord c a result (first :: rest)) = .ok receipt ↔
      Receivable c r a (first :: rest) ∧
        signedReceipt c (issuedPayload c a signed result (first :: rest) first) = receipt := by
  have hbuild : ∀ signatures receipt, buildReceipt
      (issuedPayload c a signed result (first :: rest) first) signatures = .ok receipt ↔
      (⟨issuedPayload c a signed result (first :: rest) first,
        payloadDigest (issuedPayload c a signed result (first :: rest) first),
        if signatures = [] then [unsignedRecord] else signatures⟩ : GovernanceReceipt) =
        receipt := by
    intro signatures receipt
    rw [buildReceipt, validateReceiptPayload_issuedPayload h ht, ok_bind, pure_inj]
  simp only [buildSettlementReceipt, bind_eq_ok]
  constructor
  . rintro ⟨unsigned, hunsigned, hreceipt⟩
    obtain ⟨hrecv, hunsigned⟩ :=
      (receiptFromMeshSettlement_eq_ok ha h hall ht hc hsound).mp hunsigned
    obtain rfl := (hbuild _ _).mp hunsigned
    exact ⟨hrecv, (hbuild _ _).mp hreceipt⟩
  . rintro ⟨hrecv, hreceipt⟩
    refine ⟨_, (receiptFromMeshSettlement_eq_ok ha h hall ht hc hsound).mpr
      ⟨hrecv, (hbuild _ _).mpr rfl⟩, (hbuild _ _).mpr hreceipt⟩

theorem persistSettlementRecord_eq_ok (hreadable : store.Readable)
    (habsent : store.Absent a.assignmentId)
    : persistSettlementRecord c r store (issuedRecord c a result []) (first :: rest) = .ok store' ↔
      Receivable c r a (first :: rest) ∧
      ∃ payload, payloadFromRecord (boundRecord c a signed result (first :: rest) first) =
          .ok payload ∧
        store.commit a.assignmentId payload
          (signedReceipt c (issuedPayload c a signed result (first :: rest) first)) = store' := by
  obtain ⟨payload, hpay⟩ : ∃ payload,
      payloadFromRecord (boundRecord c a signed result (first :: rest) first) = .ok payload :=
    exists_payload_boundRecord
  have hid : itemText (boundRecord c a signed result (first :: rest) first).assignment
      "assignment_id" = .ok a.assignmentId :=
    itemText_issuedRecord c a result (first :: rest)
  have hpersist : ∀ receipt, persistBound store a.assignmentId
      (boundRecord c a signed result (first :: rest) first) receipt =
      .ok (store.commit a.assignmentId payload receipt) :=
    fun _ => hreadable.persistBound_eq habsent ha.texts.2.1 hid hpay
  have hcompleted : ({ issuedRecord c a result [] with votes := voteDicts (first :: rest) }
      : SettlementRecord) = issuedRecord c a result (first :: rest) := rfl
  rw [persistSettlementRecord, itemText_issuedRecord, ok_bind, hcompleted]
  dsimp only
  constructor
  . intro hok
    split at hok
    . simp at hok
    . next receipt hreceipt =>
      obtain ⟨hrecv, rfl⟩ :=
        (buildSettlementReceipt_eq_ok ha h hall ht hc hsound).mp hreceipt
      exact ⟨hrecv, payload, hpay, Except.ok.inj ((hpersist _).symm.trans hok)⟩
  . rintro ⟨hrecv, payload', hpay', rfl⟩
    obtain rfl := Except.ok.inj (hpay.symm.trans hpay')
    have hreceipt := (buildSettlementReceipt_eq_ok ha h hall ht hc hsound).mpr ⟨hrecv, rfl⟩
    rw [hreceipt]
    exact hpersist _

end Receipts

structure IsOpen (c : Config) (s : State) (assignmentId : String) (a : PeerAssignment)
    (signed : SignedAssignment) : Prop where
  name : a.assignmentId = assignmentId
  issued : Issued c a signed
  ballots : Ballots c a (s.envelopesOn assignmentId)
  paired : (s.votesOn assignmentId).map (fun vote => (vote.voterId, vote.approved)) =
    (s.envelopesOn assignmentId).map fun vote => (vote.voterId, vote.approved)
  absent : s.store.Absent assignmentId

structure Voted (c : Config) (s : State) (assignmentId : String) (a : PeerAssignment) : Prop where
  found : s.assignments.lookup assignmentId = some a
  current : a.isRecovered = false
  unsettled : s.finalResults.lookup assignmentId = none
  complete : ∀ peer ∈ a.peers, ∃ vote ∈ s.votesOn assignmentId, vote.voterId = peer
  decided : a.settlementOutcomes c.quorum ((s.votesOn assignmentId).countP (·.approved))
    ((s.votesOn assignmentId).countP (!·.approved)) ≠ (false, false)

variable {assignmentId : String} {now : ℚ}

namespace IsOpen

variable (h : IsOpen c s assignmentId a signed)

include h

theorem voters_eq
    : (s.votesOn assignmentId).map (·.voterId) = (s.envelopesOn assignmentId).map (·.voterId) := by
  have hvoters := congrArg (map Prod.fst) h.paired
  rwa [map_map, map_map] at hvoters

theorem countP_eq (p : Bool → Bool)
    : (s.votesOn assignmentId).countP (fun vote => p vote.approved) =
      (s.envelopesOn assignmentId).countP fun vote => p vote.approved := by
  have hcounts := congrArg (countP fun pair => p pair.2) h.paired
  rwa [countP_map, countP_map] at hcounts

theorem length_eq (hv : Voted c s assignmentId a)
    : (s.envelopesOn assignmentId).length = a.peers.length := by
  have hsubset : a.peers ⊆ (s.envelopesOn assignmentId).map (·.voterId) := by
    intro peer hpeer
    obtain ⟨vote, hvote, rfl⟩ := hv.complete peer hpeer
    rw [← h.voters_eq]
    exact mem_map_of_mem hvote
  have hassigned : (s.envelopesOn assignmentId).map (·.voterId) ⊆ a.peers := by
    intro voter hvoter
    obtain ⟨vote, hvote, rfl⟩ := mem_map.mp hvoter
    exact h.ballots.assigned vote hvote
  have hle := (subperm_of_subset h.issued.roster.2.1 hsubset).length_le
  have hge := (subperm_of_subset h.ballots.nodup hassigned).length_le
  rw [length_map] at hle hge
  omega

theorem votes_length : (s.votesOn assignmentId).length = (s.envelopesOn assignmentId).length := by
  have hlen := congrArg length h.paired
  rwa [length_map, length_map] at hlen

end IsOpen

omit [Interpreter] in
theorem Issued.settlementOutcomes_eq (ha : Issued c a signed) (votesFor votesAgainst : ℤ)
    : a.settlementOutcomes c.quorum votesFor votesAgainst =
      (decide (votesFor ≥ a.quorum), decide (votesAgainst ≥ a.quorum)) := by
  obtain ⟨hmaj, -⟩ := ha.quorum_bounds
  simp only [PeerAssignment.settlementOutcomes, ha.effectiveQuorum_eq, Prod.mk.injEq,
    ← Bool.decide_and, decide_eq_decide]
  omega

def frozenResult (s : State) (a : PeerAssignment) (now : ℚ) : MeshResult :=
  let votes := s.envelopesOn a.assignmentId
  let accepted : Bool := (votes.countP VoteEnvelope.approved : ℤ) ≥ a.quorum
  { assignmentId := a.assignmentId
    accepted
    votesFor := votes.countP VoteEnvelope.approved
    votesAgainst := votes.countP (!·.approved)
    quorumMet := true
    pendingVotes := 0
    constitutionalHash := a.constitutionalHash
    proof := some (buildProof a votes accepted (.finite now))
    settled := true
    settledAt := some (.finite now)
    voteEnvelopes := votes
    signedAssignment := a.signedAssignment }

theorem IsOpen.previewResult_eq (h : IsOpen c s assignmentId a signed)
    (hv : Voted c s assignmentId a) (now : ℚ)
    : ∃ preview, previewResult c s a = .ok preview ∧ preview.quorumMet ∧
      freezeResult a preview (s.envelopesOn assignmentId) (.finite now) = frozenResult s a now := by
  have hcurr : requireCurrentConstitution c a = .ok () := by
    rw [requireCurrentConstitution, raiseIf_eq_ok]
    simp [h.issued.constitution]
  have hfor := h.countP_eq fun approved => approved
  have hagainst := h.countP_eq fun approved => !approved
  have hlen := h.votes_length.trans (h.length_eq hv)
  have hdecided := hv.decided
  simp only [h.issued.settlementOutcomes_eq, ne_eq, Prod.mk.injEq, not_and_or,
    Bool.not_eq_false] at hdecided
  simp only [previewResult, hcurr, ok_bind, h.issued.settlementOutcomes_eq, h.name,
    hlen, sub_self, pure_eq_ok, decide_true, Bool.and_true]
  refine ⟨_, rfl, ?_, ?_⟩
  . simpa using hdecided
  . simp only [freezeResult, frozenResult, h.name, hfor, hagainst]

omit [Interpreter] in
theorem length_sub_countApproved (votes : List VoteEnvelope)
    : votes.length - countApproved votes = votes.countP fun vote => !vote.approved := by
  have htotal := length_eq_countP_add_countP VoteEnvelope.approved (l := votes)
  have hagainst : (votes.countP fun vote => decide ¬vote.approved) =
      votes.countP fun vote => !vote.approved := by
    congr 1
    funext vote
    cases vote.approved <;> rfl
  rw [countApproved, ← hagainst]
  omega

theorem IsOpen.tallied (h : IsOpen c s assignmentId a signed) (hv : Voted c s assignmentId a)
    (now : ℚ) : Tallied a (s.envelopesOn assignmentId) (frozenResult s a now) := by
  obtain ⟨hmaj, -⟩ := h.issued.quorum_bounds
  have hlen := h.length_eq hv
  have hsub := length_sub_countApproved (s.envelopesOn assignmentId)
  refine ⟨?_, ?_, ?_⟩
  . rw [frozenResult, h.name]
    rfl
  . rw [frozenResult, h.name, hsub]
  . have hdecided := hv.decided
    simp only [h.issued.settlementOutcomes_eq, ne_eq, Prod.mk.injEq, not_and_or,
      Bool.not_eq_false, decide_eq_true_eq, h.countP_eq fun approved => approved,
      h.countP_eq fun approved => !approved, ← hsub] at hdecided
    have htotal : countApproved (s.envelopesOn assignmentId) ≤ a.peers.length :=
      hlen ▸ countP_le_length
    have hthr : max ((a.peers.length / 2 + 1 : ℕ) : ℤ) a.quorum = a.quorum := by omega
    have hres : (frozenResult s a now).accepted =
        decide ((countApproved (s.envelopesOn assignmentId) : ℤ) ≥ a.quorum) := by
      rw [frozenResult, h.name]
      rfl
    rw [uniqueOutcome, hthr, hres, if_neg]
    rw [decide_eq_decide]
    change (countApproved _ : ℤ) ≥ a.quorum ∨ _ at hdecided
    omega

def frozenOf (c : Config) (s : State) (a : PeerAssignment) (now : ℚ) : Frozen where
  final := frozenResult s a now
  votes := s.envelopesOn a.assignmentId
  pendingRecord := issuedRecord c a (frozenResult s a now) (s.envelopesOn a.assignmentId)
  settledRecord := issuedRecord c { a with isRecovered := true } (frozenResult s a now) []
  recoveredAssignment := { a with isRecovered := true }

theorem IsOpen.freeze_eq_ok (h : IsOpen c s assignmentId a signed) (hv : Voted c s assignmentId a)
    : freeze c s assignmentId now = .ok frozen ↔
      Custody c s a ∧ .inr (frozenOf c s a now) = frozen := by
  obtain ⟨_, hpreview, hquorum, hfrozen⟩ := h.previewResult_eq hv now
  have hcurr : requireCurrentConstitution c a = .ok () := by
    rw [requireCurrentConstitution, raiseIf_eq_ok]
    simp [h.issued.constitution]
  have hcustody : Custody c s { a with isRecovered := true } ↔ Custody c s a := Iff.rfl
  simp only [freeze, hv.unsettled, freezeAssignment, hv.found, hcurr, hv.current, hpreview,
    hquorum, hfrozen, raiseIf, Bool.false_eq_true, if_false, pure_eq_ok, ok_bind,
    Apcc.ensure_true, bind_eq_ok, Except.ok.injEq, h.issued.buildSettlementRecord_eq_ok,
    h.issued.recovered.buildSettlementRecord_eq_ok, hcustody]
  constructor
  . rintro ⟨_, ⟨_, ⟨hheld, rfl⟩, _, ⟨-, rfl⟩, rfl⟩, rfl⟩
    refine ⟨hheld, ?_⟩
    rw [frozenOf, h.name]
    rfl
  . rintro ⟨hheld, rfl⟩
    refine ⟨_, ⟨_, ⟨hheld, rfl⟩, _, ⟨hheld, rfl⟩, rfl⟩, ?_⟩
    rw [frozenOf, h.name]
    rfl

omit [Interpreter] in
theorem State.evictOldest_frame (s : State) (excess : Nat)
    : (s.evictOldest excess).registry = s.registry ∧
      (s.evictOldest excess).privateKeys = s.privateKeys ∧
      (s.evictOldest excess).store = s.store ∧
      (s.evictOldest excess).voteEnvelopes = s.voteEnvelopes := by
  induction excess generalizing s with
  | zero => exact ⟨rfl, rfl, rfl, rfl⟩
  | succ excess ih =>
    unfold State.evictOldest
    split
    . exact ⟨rfl, rfl, rfl, rfl⟩
    . exact ih _

omit [Interpreter] in
theorem rememberFinalResult_frame (c : Config) (s : State) (assignmentId : String)
    (result : MeshResult)
    : (rememberFinalResult c s assignmentId result).registry = s.registry ∧
      (rememberFinalResult c s assignmentId result).store = s.store :=
  let h := State.evictOldest_frame { s with
    finalResults := Assoc.erase assignmentId s.finalResults ++ [(assignmentId, result)] } _
  ⟨h.1, h.2.2.1⟩

structure Settleable (c : Config) (s : State) (a : PeerAssignment) : Prop where
  custody : Custody c s a
  receivable : Receivable c s.registry a (s.envelopesOn a.assignmentId)

structure Recorded (c : Config) (store store' : SettlementStore) (a : PeerAssignment)
    (signed : SignedAssignment) (result : MeshResult) (first : VoteEnvelope)
    (rest : List VoteEnvelope) (payload : Dict) : Prop where
  written : payloadFromRecord (boundRecord c a signed result (first :: rest) first) = .ok payload
  rows : store'.rows = store.rows ++ [(a.assignmentId, payload)]
  receipts : store'.receipts =
    if store.backend.hasPath then Assoc.set a.assignmentId
      [signedReceipt c (issuedPayload c a signed result (first :: rest) first)] store.receipts
    else store.receipts

theorem exists_markPending
    : ∃ pending, store.markPending (issuedRecord c a result votes) =
      .ok { store with pending := pending } := by
  rw [SettlementStore.markPending, itemText_issuedRecord]
  exact ⟨_, rfl⟩

theorem IsOpen.settle_eq (h : IsOpen c s assignmentId a signed) (hv : Voted c s assignmentId a)
    (hcustody : Custody c s a) (now : ℚ)
    : ∃ pending, settle c s assignmentId now = persistFrozen c (rememberFinalResult c
        { s with store := { s.store with pending := pending } } assignmentId
          (frozenResult s a now)) assignmentId (frozenOf c s a now) := by
  obtain ⟨pending, hpend⟩ : ∃ pending, s.store.markPending (frozenOf c s a now).pendingRecord =
      .ok { s.store with pending := pending } := exists_markPending
  have hinstall : install c { s with store := { s.store with pending := pending } } assignmentId
      (frozenOf c s a now).final = .inr (rememberFinalResult c
        { s with store := { s.store with pending := pending } } assignmentId
          (frozenResult s a now)) := by
    simp only [install, hv.unsettled]
    rfl
  refine ⟨pending, ?_⟩
  rw [settle, h.freeze_eq_ok hv |>.mpr ⟨hcustody, rfl⟩]
  simp only [settleFrozen, hpend, hinstall]

section Settle

variable [Platform.Lawful]

theorem IsOpen.persistFrozen_eq (h : IsOpen c s assignmentId a signed)
    (hv : Voted c s assignmentId a) (hc : IsIdentity c.rootId) (hsound : s.registry.Sound)
    (hreadable : s.store.Readable) (hreg : t.registry = s.registry)
    (hstore : t.store = { s.store with pending := pending })
    (hsettled : persistFrozen c t assignmentId (frozenOf c s a now) = settled)
    : (¬Receivable c s.registry a (s.envelopesOn assignmentId) ∧ ∃ e, settled.2 = .error e) ∨
      (Receivable c s.registry a (s.envelopesOn assignmentId) ∧
        settled.2 = .ok (frozenResult s a now) ∧
        ∃ first rest payload, s.envelopesOn assignmentId = first :: rest ∧
          Recorded c s.store settled.1.store { a with isRecovered := true } signed
            (frozenResult s a now) first rest payload) := by
  obtain ⟨first, rest, hvotes⟩ := exists_cons_of_ne_nil (Ballots.ne_nil h.issued (h.length_eq hv))
  have hread : t.store.Readable := by
    rw [hstore]
    exact hreadable
  have habsent : t.store.Absent a.assignmentId := by
    rw [hstore, h.name]
    exact h.absent
  have hpersist : ∀ store', persistSettlementRecord c t.registry t.store
      (frozenOf c s a now).settledRecord (frozenOf c s a now).votes = .ok store' ↔
      Receivable c s.registry a (first :: rest) ∧
      ∃ payload, payloadFromRecord (boundRecord c { a with isRecovered := true } signed
          (frozenResult s a now) (first :: rest) first) = .ok payload ∧
        t.store.commit a.assignmentId payload (signedReceipt c (issuedPayload c
          { a with isRecovered := true } signed (frozenResult s a now) (first :: rest) first)) =
          store' := by
    intro store'
    have hballots := h.ballots.recovered
    have hall := h.length_eq hv
    have htallied := h.tallied hv now
    rw [hvotes] at hballots hall htallied
    rw [show (frozenOf c s a now).votes = first :: rest by rw [frozenOf, h.name, hvotes], hreg]
    rw [← receivable_recovered]
    exact persistSettlementRecord_eq_ok h.issued.recovered hballots hall
      ⟨htallied.votesFor, htallied.votesAgainst, htallied.outcome⟩ hc hsound hread habsent
  rw [hvotes]
  subst hsettled
  unfold persistFrozen
  split
  . next e herror =>
    refine .inl ⟨fun hrecv => ?_, _, rfl⟩
    obtain ⟨payload, hpay⟩ := exists_payload_boundRecord
    have hok := (hpersist _).mpr ⟨hrecv, payload, hpay, rfl⟩
    rw [herror] at hok
    cases hok
  . next store' hok =>
    obtain ⟨hrecv, payload, hpay, rfl⟩ := (hpersist store').mp hok
    refine .inr ⟨hrecv, rfl, first, rest, payload, rfl, hpay, ?_, ?_⟩
    . show t.store.rows ++ _ = _
      rw [hstore]
    . show (if t.store.backend.hasPath then _ else t.store.receipts) = _
      rw [hstore]

theorem IsOpen.settle_cases (h : IsOpen c s assignmentId a signed) (hv : Voted c s assignmentId a)
    (hc : IsIdentity c.rootId) (hsound : s.registry.Sound) (hreadable : s.store.Readable) (now : ℚ)
    : (¬Settleable c s a ∧ ∃ e, (settle c s assignmentId now).2 = .error e) ∨
      (Settleable c s a ∧ (settle c s assignmentId now).2 = .ok (frozenResult s a now) ∧
        ∃ first rest payload, s.envelopesOn assignmentId = first :: rest ∧
          Recorded c s.store (settle c s assignmentId now).1.store { a with isRecovered := true }
            signed (frozenResult s a now) first rest payload) := by
  have hvotes : s.envelopesOn a.assignmentId = s.envelopesOn assignmentId := by rw [h.name]
  by_cases hcustody : Custody c s a
  . obtain ⟨pending, hsettle⟩ := h.settle_eq hv hcustody now
    have hframe := rememberFinalResult_frame c
      { s with store := { s.store with pending := pending } } assignmentId (frozenResult s a now)
    rcases h.persistFrozen_eq hv hc hsound hreadable hframe.1 hframe.2 hsettle.symm with
      ⟨hnot, herror⟩ | ⟨hrecv, hok⟩
    . exact .inl ⟨fun hs => hnot (hvotes ▸ hs.receivable), herror⟩
    . exact .inr ⟨⟨hcustody, hvotes.symm ▸ hrecv⟩, hok⟩
  . refine .inl ⟨fun hs => hcustody hs.custody, ?_⟩
    unfold settle
    split
    . next e _ => exact ⟨e, rfl⟩
    . next final hfreeze => simp [h.freeze_eq_ok hv] at hfreeze
    . next frozen hfreeze => exact absurd ((h.freeze_eq_ok hv).mp hfreeze).1 hcustody

end Settle

end Mesh
