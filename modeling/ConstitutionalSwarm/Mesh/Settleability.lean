import ConstitutionalSwarm.Mesh.CoreRuns

namespace Mesh

open Raising
open PyValue (Dict sortTexts)

variable [Platform] [Interpreter]

def Persisted (settled : State × Py MeshResult) (assignmentId : String) : Prop :=
  ∃ result payload record, settled.2 = .ok result ∧
    (assignmentId, payload) ∈ settled.1.store.rows ∧ recordFromPayload payload = .ok record ∧
    record.result = serializeResult result ∧ record.receiptDigest.isSome

section Settleability

variable [Platform.Lawful] {c : Config} {s : State} {a : PeerAssignment} {assignmentId : String}

theorem Inv.persisted_iff (h : Inv c s) (hc : c.Valid) (hv : Voted c s assignmentId a) (now : ℚ)
    : Persisted (Mesh.settle c s assignmentId now) assignmentId ↔ Settleable c s a := by
  obtain ⟨_, hopen⟩ := h.isOpen _ _ hv.found hv.current hv.unsettled
  rcases hopen.settle_cases hv hc.rootIdentity h.sound h.readable now with
    ⟨hnot, e, herror⟩ | ⟨hsettleable, hok, first, rest, payload, -, hrecorded⟩
  . refine iff_of_false ?_ hnot
    rintro ⟨result, -, -, hok, -⟩
    rw [herror] at hok
    cases hok
  . refine iff_of_true ?_ hsettleable
    refine ⟨_, payload, _, hok, ?_, recordFromPayload_boundRecord hrecorded.written, rfl, rfl⟩
    rw [hrecorded.rows, ← hopen.name]
    simp

/--
A fully voted assignment is settled and persisted exactly when the mesh holds at most one key of its
peers, its producer has a normal name other than the authority's, the names and keys of the signers
are separate, and every voter still has the key of its vote.
-/
theorem settle_persisted_iff_settleable {t : State} (hc : c.Valid) (hs : Initial s)
    (hrun : Run c s t) (hv : Voted c t assignmentId a) (now : ℚ)
    : Persisted (settle c t assignmentId now) assignmentId ↔ Settleable c t a :=
  (hrun.inv hc hs).persisted_iff hc hv now

/-- An open assignment has one vote at most of each assigned peer, each under a signed envelope. -/
theorem one_vote_each {c : Config} {s t : State} {assignmentId : String} {a : PeerAssignment}
    (hc : c.Valid) (hs : Initial s) (hrun : Run c s t)
    (hfound : t.assignments.lookup assignmentId = some a) (hcurrent : a.isRecovered = false)
    (hopen : t.finalResults.lookup assignmentId = none)
    : let votes := t.votesOn assignmentId
      (votes.map (·.voterId)).Nodup ∧
      (∀ vote ∈ votes, vote.voterId ∈ a.peers ∧ normalizeVoterId a.producerId ≠ .ok vote.voterId ∧
        ∃ envelope ∈ t.envelopesOn assignmentId, envelope.voterId = vote.voterId ∧
          envelope.approved = vote.approved ∧ envelope.binding = a.binding ∧ envelope.Signed) ∧
      a.settlementOutcomes c.quorum (votes.countP (·.approved)) (votes.countP (!·.approved)) ≠
        (true, true) := by
  obtain ⟨signed, h⟩ := (hrun.inv hc hs).isOpen assignmentId a hfound hcurrent hopen
  have hpair : ∀ vote ∈ t.votesOn assignmentId, ∃ envelope ∈ t.envelopesOn assignmentId,
      envelope.voterId = vote.voterId ∧ envelope.approved = vote.approved := by
    intro vote hvote
    have hmem : (vote.voterId, vote.approved) ∈ (t.votesOn assignmentId).map
        fun vote => (vote.voterId, vote.approved) := List.mem_map_of_mem hvote
    rw [h.paired] at hmem
    simpa using hmem
  have hassigned : ∀ vote ∈ t.votesOn assignmentId, vote.voterId ∈ a.peers := by
    intro vote hvote
    obtain ⟨envelope, henvelope, hvoter, -⟩ := hpair vote hvote
    exact hvoter ▸ h.ballots.assigned envelope henvelope
  have hnodup : ((t.votesOn assignmentId).map (·.voterId)).Nodup := by
    have hvoters := congrArg (List.map Prod.fst) h.paired
    simp only [List.map_map, Function.comp_def] at hvoters
    exact hvoters ▸ h.ballots.nodup
  refine ⟨hnodup, fun vote hvote => ⟨hassigned vote hvote, ?_, ?_⟩, ?_⟩
  . rw [h.issued.producer, ne_eq, Except.ok.injEq]
    intro hproducer
    exact signed.isValid.producer_notMem (h.issued.peers ▸ hproducer ▸ hassigned vote hvote)
  . obtain ⟨envelope, henvelope, hvoter, happroved⟩ := hpair vote hvote
    exact ⟨envelope, henvelope, hvoter, happroved, h.ballots.bound envelope henvelope,
      h.ballots.signed envelope henvelope⟩
  . apply PeerAssignment.settlementOutcomes_exclusive
    have hsub : (t.votesOn assignmentId).map (·.voterId) ⊆ a.peers := by simpa [List.subset_def]
    have hlen := (List.subperm_of_subset hnodup hsub).length_le
    have hcount := List.length_eq_countP_add_countP (fun vote : ValidationVote => vote.approved)
      (l := t.votesOn assignmentId)
    simp at hlen hcount
    omega

omit [Interpreter] [Platform.Lawful]

def agentGrant (name : String) (key : PublicKey) : Grant :=
  Registry.grantOf name key agentRoles

theorem agentGrant_roles [Platform.Lawful] (name : String) (key : PublicKey)
    : (agentGrant name key).roles = {"voter", "validator"} := by
  have hroles : agentRoles.map normalizeRole = agentRoles := by
    have hplain : ∀ role ∈ agentRoles, role.toList.all isPlain := by decide
    rw [List.map_congr_left fun role hrole => normalizeRole_plain (hplain role hrole), List.map_id']
  rw [agentGrant, Registry.grantOf, hroles]
  rfl

theorem agentGrant_valid [Platform.Lawful] (h : IsIdentity name) (key : PublicKey)
    : (agentGrant name key).Valid where
  identity := h
  keyId := rfl
  roles_ne := by simp [agentGrant_roles]
  roles := by
    have hplain : ∀ role ∈ ({"voter", "validator"} : Finset String),
        role.toList.all isPlain ∧ role ≠ "" := by decide
    intro role hrole
    rw [agentGrant_roles] at hrole
    obtain ⟨hrolePlain, hroleNe⟩ := hplain role hrole
    rw [Platform.Lawful.strip_plain role hrolePlain, normalizeRole_plain hrolePlain]
    exact ⟨hroleNe, rfl⟩
  exclusive := by simp [agentGrant_roles]

def State.enroll (s : State) (name : String) (key : PublicKey) : State :=
  { s with
    registry := s.registry.rotate (agentGrant name key)
    agents := addAgent s.agents name
    privateKeys := Assoc.erase name s.privateKeys }

theorem registerRemoteAgent_eq [Platform.Lawful] (h : s.registry.Sound) (hname : IsIdentity name)
    (hne : name ≠ c.assignerId) (ha : s.registry.Admissible (agentGrant name key))
    : registerRemoteAgent c s name (.key key) = .ok (s.enroll name key) := by
  have hagent : normalizeAgentId c name = .ok name := by
    rw [normalizeAgentId, show normalizeVoterId name = .ok name from hname]
    simp [raiseIf, hne]
  have hroles : ∀ role ∈ agentRoles, Platform.strip role ≠ "" := by
    have hplain : ∀ role ∈ agentRoles, role.toList.all isPlain ∧ role ≠ "" := by decide
    intro role hrole
    obtain ⟨hrolePlain, hroleNe⟩ := hplain role hrole
    rwa [Platform.Lawful.strip_plain role hrolePlain]
  have hreplace : s.registry.replace name key agentRoles =
      .ok (s.registry.rotate (agentGrant name key)) :=
    h.replace_eq_ok.mpr ⟨_, Registry.candidateGrant_eq_ok.mpr
      ⟨⟨hroles, by decide⟩, name, hname, rfl⟩, ha, rfl⟩
  simp only [registerRemoteAgent, hagent, publicKeyFrom, hreplace, ok_bind, pure_eq_ok,
    State.enroll]

theorem Issued.exists_approval [Platform.Lawful] (ha : Issued c a signed) (hname : name ∈ a.peers)
    (key : PublicKey)
    : ∃ vote : VoteEnvelope, Fits c a vote ∧ vote.voterId = name ∧ vote.approved ∧
      vote.keyId = keyIdForPublicKey key ∧
      vote.signature = String.ofList (List.replicate 128 '0') := by
  obtain ⟨hmaj, hquorum⟩ := ha.quorum_bounds
  obtain ⟨htask, hid, hart, hcontent, hconst⟩ := ha.texts
  have hprod := ne_empty_of_normalizeVoterId ha.producer
  let fields : EnvelopeFields := {
    protocolVersion := 3, voterId := name, keyId := keyIdForPublicKey key, binding := a.binding
    electorate := ⟨rosterHash a.peers, a.peers.length, a.quorum, c.evidenceMode⟩
    decision := .approved, reason := "", nonce := "n", issuedAt := .finite 0
    signature := String.ofList (List.replicate 128 '0')
    assignmentDigest := a.signedAssignmentDigest }
  have hvalid : fields.Valid := {
    version := .inr rfl
    voter := ha.identities name hname
    keyId := isCanonical_sha256 _
    hash := isCanonical_sha256 _
    count := by
      show (1 : ℤ) ≤ a.peers.length
      omega
    quorum := by
      show 1 ≤ a.quorum ∧ a.quorum ≤ a.peers.length
      omega
    majority := by
      show (a.peers.length : ℤ) / 2 < a.quorum
      omega
    texts := by
      simp [fields, Binding.entries, PeerAssignment.binding, htask, hid, hart, hcontent,
        hconst, hprod]
    finite := rfl
    signature := by
      have hzero : Hex.isLower '0' := by decide
      simp [fields, Hex.isCanonical, hzero]
    digest := by
      rw [if_pos rfl]
      show Hex.isCanonical 64 a.signedAssignmentDigest
      rw [ha.digest_eq]
      exact isCanonical_sha256 _ }
  exact ⟨⟨fields, validateEnvelope_eq_ok.mpr hvalid⟩, ⟨rfl, rfl, rfl, rfl, hname⟩, rfl, rfl, rfl,
    rfl⟩

def State.ballot (s : State) (assignmentId : String) (vote : VoteEnvelope) (now : ℚ) : State :=
  { s with
    signedEnvelopes := Assoc.erase vote.signature s.signedEnvelopes
    votes := Assoc.set assignmentId (s.votesOn assignmentId ++
      [⟨vote.voterId, vote.approved, vote.reason, vote.signature, .finite now⟩]) s.votes
    voteEnvelopes := Assoc.set assignmentId (s.envelopesOn assignmentId ++ [vote])
      s.voteEnvelopes }

@[simp]
theorem State.votesOn_ballot (vote : VoteEnvelope) (now : ℚ)
    : (s.ballot assignmentId vote now).votesOn assignmentId = s.votesOn assignmentId ++
      [⟨vote.voterId, vote.approved, vote.reason, vote.signature, .finite now⟩] := by
  rw [votesOn, ballot, Assoc.lookup_set, if_pos rfl, Option.getD_some]

@[simp]
theorem State.envelopesOn_ballot (vote : VoteEnvelope) (now : ℚ)
    : (s.ballot assignmentId vote now).envelopesOn assignmentId =
      s.envelopesOn assignmentId ++ [vote] := by
  rw [envelopesOn, ballot, Assoc.lookup_set, if_pos rfl, Option.getD_some]

@[simp]
theorem State.votesOn_enroll (name : String) (key : PublicKey)
    : (s.enroll name key).votesOn assignmentId = s.votesOn assignmentId := rfl

@[simp]
theorem State.envelopesOn_enroll (name : String) (key : PublicKey)
    : (s.enroll name key).envelopesOn assignmentId = s.envelopesOn assignmentId := rfl

theorem recordVoteEnvelope_eq (hhalted : s.halted = false) (hname : a.assignmentId = assignmentId)
    (ha : Issued c a signed) (hfound : s.assignments.lookup assignmentId = some a)
    (hcurr : a.isRecovered = false) (hfinal : s.finalResults.lookup assignmentId = none)
    (hcustody : Custody c s a) (hfits : Fits c a vote) (hagent : vote.voterId ∈ s.agents)
    (hauthorized : s.registry.authorize vote.voterId vote.keyId "voter" = .ok key)
    (hverif : key.verifies vote.signature (canonicalVoteEnvelopeBytes vote.toEnvelopeFields false))
    (hnew : ∀ v ∈ s.votesOn assignmentId, v.voterId ≠ vote.voterId) (now : ℚ)
    : Prod.snd <$> recordVoteEnvelope c s vote now = .ok (s.ballot assignmentId vote now) := by
  have hid : vote.binding.assignmentId = assignmentId := by
    rw [hfits.bound]
    exact hname
  have hopen : openAssignment c s assignmentId = .ok a := by
    simp [openAssignment, hfinal, hfound, requireCurrentConstitution, ha.constitution, hcurr,
      raiseIf]
  have htarget : voteTarget c s assignmentId vote.voterId = .ok a := by
    simp [voteTarget, checkHalted, hhalted, hopen, hfits.assigned, hagent, raiseIf]
  have hver : verifyVoteEnvelope vote s.registry a.binding "voter"
      (if a.signedAssignmentDigest = "" then none else some a.signedAssignmentDigest) =
        .ok key := by
    refine verifyVoteEnvelope_eq_ok.mpr ⟨⟨hauthorized, hfits.bound, hverif⟩, ?_⟩
    intro digest hdig
    split at hdig
    . simp at hdig
    . rw [hfits.digest]
      exact Option.some.inj hdig
  have hmode : assignmentEvidenceMode c s a = .ok c.evidenceMode :=
    ha.assignmentEvidenceMode_eq_ok.mpr ⟨hcustody, rfl⟩
  have hmeta : verifyEnvelopeAssignmentMetadata c s vote a = .ok () := by
    simp [verifyEnvelopeAssignmentMetadata, ha.evidence, ha.peersHash, ha.effectiveQuorum_eq, hmode,
      hfits.version, hfits.digest, hfits.electorate, raiseIf]
  have hfresh : (s.votesOn assignmentId).any (fun v => decide (v.voterId = vote.voterId)) =
      false := by
    simpa using hnew
  simp only [recordVoteEnvelope, hid, htarget, hver, hmeta, recordVerifiedVote, hname,
    hfresh, raiseIf, Bool.false_eq_true, if_false, ok_bind, pure_eq_ok]
  rfl

end Settleability

end Mesh

namespace Mesh.Sample

open Raising

instance : Platform.Lawful where
  strip_casefold _ := rfl
  casefold_casefold _ := rfl
  nfkc_plain _ _ := rfl
  strip_plain _ _ := rfl
  casefold_plain _ _ := rfl
  isFormat_plain _ _ := rfl
  verify_sign _ _ := rfl

scoped instance interpreter : Interpreter where
  repr _ := ""
  floatRepr _ := ""
  floatOfText _ := none
  floatOfInt value := some (.finite value)
  items _ := .ok []
  sorted values := .ok values
  sortedSet values := .ok values

@[simps]
def config : Config where
  constitutionalHash := "c"
  peersPerValidation := 3
  quorum := 3
  evidenceMode := .independent
  assignerId := "m"
  rootId := "m"
  assignerKey := privateKey 1
  receiptKey := privateKey 9
  riskScoring := false
  maxPendingAssignments := 10
  maxSettledResults := 10

theorem config_valid : config.Valid where
  root := normalizeVoterId_eq (by decide)
  rootIdentity := normalizeVoterId_eq (by decide)
  quorum := by decide

@[simps]
def start : State where
  registry := Registry.empty.rotate config.assignerGrant
  agents := []
  privateKeys := []
  assignments := []
  pendingAssignments := 0
  votes := []
  voteEnvelopes := []
  signedEnvelopes := []
  finalResults := []
  quarantined := []
  halted := false
  store := ⟨.jsonl, [], [], []⟩

theorem start_initial : Initial start where
  sound := Registry.sound_empty.rotate
    ⟨config.assignerGrant_valid (normalizeVoterId_eq (by decide)), by simp [Registry.empty],
      by simp [Registry.empty]⟩
  readable := by simp [SettlementStore.Readable]
  recovered := by simp

theorem isIdentity_of_ne (h : name ≠ "") : IsIdentity name :=
  normalizeVoterId_eq h

theorem admissible_agent {r : Registry} (h : r.Sound) {name : String} (hname : name ≠ "")
    {byte : UInt8} (hkey : ∀ other grant, r.identities.lookup other = some grant → other ≠ name →
      grant.key ≠ publicKey byte)
    : r.Admissible (agentGrant name (publicKey byte)) where
  valid := agentGrant_valid (isIdentity_of_ne hname) _
  key := hkey
  owner := by
    intro other howner
    obtain ⟨grant, hgrant, hkeyId⟩ := (h.owners _ _).mp howner
    by_contra hne
    have hvalid := (h.grants _ _ hgrant).2
    rw [hvalid.keyId] at hkeyId
    exact hkey other grant hgrant hne (keyIdForPublicKey_inj.mp hkeyId)

theorem run_enroll {s : State} (hrun : Run config start s) {name : String} (hname : name ≠ "")
    (hne : name ≠ "m") {byte : UInt8}
    (hkey : ∀ other grant, s.registry.identities.lookup other = some grant → other ≠ name →
      grant.key ≠ publicKey byte)
    : Run config start (s.enroll name (publicKey byte)) := by
  have hsound := (hrun.inv config_valid start_initial).sound
  exact hrun.tail (a := .registerRemoteAgent name (.key (publicKey byte))) trivial
    (registerRemoteAgent_eq hsound (isIdentity_of_ne hname) hne
      (admissible_agent hsound hname hkey))

def members : State :=
  (((start.enroll "p" (publicKey 2)).enroll "x" (publicKey 3)).enroll "y" (publicKey 4)).enroll "z"
    (publicKey 5)

theorem publicKey_ne (h : a ≠ b) : publicKey a ≠ publicKey b :=
  publicKey_injective.ne h

theorem run_members : Run config start members := by
  refine run_enroll (run_enroll (run_enroll (run_enroll (.refl start) ?_ ?_ ?_) ?_ ?_ ?_) ?_ ?_ ?_)
    ?_ ?_ ?_
  all_goals first | decide | skip
  all_goals
    intro other grant hgrant _
    simp only [State.enroll, start_registry, Registry.lookup_rotate, Registry.empty] at hgrant
    split_ifs at hgrant
    all_goals first
      | cases hgrant
        exact publicKey_ne (by decide)
      | simp at hgrant

@[simps]
def outputRequest : ValidationRequest where
  producerId := "p"
  content := ""
  artifactId := "t"
  taskId := none
  risk := .ok 0
  selectPeers _ _ := .ok ["x", "y", "z"]
  assignmentId := "i"
  selectionSeed := "s"
  issuedAt := 0

@[simps]
def requestFields (signature : String) : AssignmentFields where
  protocolVersion := 1
  taskId := "t"
  assignmentId := "i"
  assignerId := "m"
  keyId := config.assignerKeyId
  producerId := "p"
  artifactId := "t"
  contentHash := contentHash ""
  constitutionalHash := "c"
  assignedPeers := ["x", "y", "z"]
  quorum := 3
  selectionSeed := "s"
  issuedAt := .finite 0
  signature := signature

theorem requestFields_valid (h : Hex.isCanonical 128 signature)
    : (requestFields signature).Valid where
  version := rfl
  assigner := isIdentity_of_ne (by simp)
  keyId := isCanonical_sha256 _
  texts := by simp [contentHash_ne]
  peers := canonicalAssignedPeers_voters
  producer := isIdentity_of_ne (by simp)
  producer_notMem := by simp
  assigner_notMem := by simp
  quorum := by simp
  majority := by simp
  finite := rfl
  signature := h

theorem exists_requestFields (signature : String) (h : Hex.isCanonical 128 signature)
    : ∃ item, SignedAssignment.ofFields (requestFields signature) = .ok item ∧
      item.toAssignmentFields = requestFields signature :=
  ⟨⟨_, validateAssignment_eq_ok.mpr (requestFields_valid h)⟩,
    SignedAssignment.ofFields_eq_ok.mpr rfl, rfl⟩

theorem exists_signRequest
    : ∃ a, signRequest config outputRequest "p" ["x", "y", "z"] = .ok a ∧
      a.peers = ["x", "y", "z"] ∧ a.producerId = "p" := by
  obtain ⟨unsigned, hunsigned, hflds⟩ := exists_requestFields _ (isCanonical_zeros 128)
  obtain ⟨signed, hsigned, hsignedFields⟩ := exists_requestFields (Hex.encode
    (Platform.sign (privateKey 1)
      (canonicalSignedAssignmentBytes unsigned.toAssignmentFields false)))
    (Hex.isCanonical_encode (by rw [Platform.length_sign]))
  have hsign : signAssignment (privateKey 1)
      ⟨"t", "i", "p", "t", contentHash "", "c"⟩ "m" ["x", "y", "z"] 3 "s" (.finite 0) =
      .ok signed := by
    rw [signAssignment, normalizeVoterId_eq (by decide), ok_bind,
      normalizeVoterId_eq (by simp), ok_bind, canonicalAssignedPeers_voters, ok_bind]
    refine bind_eq_ok.mpr ⟨unsigned, hunsigned, ?_⟩
    rw [hflds] at hsigned ⊢
    exact hsigned
  have hpeers : signed.assignedPeers = ["x", "y", "z"] := by rw [hsignedFields]; rfl
  have hhash := canonicalAssignedPeersHash_of_canonical canonicalAssignedPeers_voters
  rw [← hpeers] at hhash
  refine ⟨_, bind_eq_ok.mpr ⟨signed, hsign, bind_eq_ok.mpr ⟨_, hhash, rfl⟩⟩, hpeers, rfl⟩

def requested (a : PeerAssignment) : State :=
  { members.putAssignment a with
    votes := Assoc.set a.assignmentId [] (members.putAssignment a).votes }

theorem exists_requested
    : ∃ a signed, Run config start (requested a) ∧ Issued config a signed ∧ a.assignmentId = "i" ∧
      a.isRecovered = false ∧ a.peers = ["x", "y", "z"] ∧ a.producerId = "p" := by
  obtain ⟨a, hsigned, hpeers, hprod⟩ := exists_signRequest
  have hidents : ∀ peer ∈ ["x", "y", "z"], IsIdentity peer := by
    simp [IsIdentity]
  obtain ⟨hname, hcurr, signed, hissued⟩ := signRequest_issued config_valid hidents hsigned
  have hselected : validateSelectedPeers ["x", "y", "z"] ["x", "y", "z"] 3 = .ok () := by
    simp [validateSelectedPeers, raiseIf]
  have hreq : requestValidation config members outputRequest = .ok (a, requested a) := by
    have hagents : members.agents = ["p", "x", "y", "z"] := by decide
    have hpend : members.pendingAssignments = 0 := rfl
    have hhalted : members.halted = false := rfl
    have hneeded : neededPeers config ["x", "y", "z"].length 0 = 3 := by decide
    have havail : ["p", "x", "y", "z"].filter (fun name => decide (name ≠ "p")) =
        ["x", "y", "z"] := by decide
    simp only [requestValidation, outputRequest_producerId,
      normalizeVoterId_eq (show "p" ≠ "" by decide), ok_bind, checkHalted, hhalted,
      hpend, hagents, raiseIf, havail, outputRequest_risk, outputRequest_selectPeers,
      hsigned, hneeded, hselected]
    rfl
  refine ⟨a, signed, ?_, hissued, hname, hcurr, hpeers, hprod⟩
  have hfresh : Fresh members (.requestValidation outputRequest) :=
    ⟨rfl, by simp [members, State.enroll, SettlementStore.Absent]⟩
  exact run_members.tail hfresh (by rw [step, hreq]; rfl)

theorem run_ballot (hrun : Run config start s) (ha : Issued config a signed)
    (hname : a.assignmentId = "i") (hfound : s.assignments.lookup "i" = some a)
    (hcurr : a.isRecovered = false) (hfinal : s.finalResults = []) (hhalted : s.halted = false)
    (hprivate : s.privateKeys = []) (hfits : Fits config a vote) (hagent : vote.voterId ∈ s.agents)
    (hkeyId : vote.keyId = keyIdForPublicKey key) (hsig : vote.signature = zeros 128)
    (hgrant : s.registry.identities.lookup vote.voterId = some (agentGrant vote.voterId key))
    (hnew : ∀ v ∈ s.votesOn "i", v.voterId ≠ vote.voterId)
    : Run config start (s.ballot "i" vote 0) := by
  have hcustody : Custody config s a := .inr (by simp [hprivate])
  have hauthorized : s.registry.authorize vote.voterId vote.keyId "voter" = .ok key := by
    rw [Registry.authorize_eq_ok, normalizeRole_plain (by decide)]
    exact ⟨_, vote.isValid.voter, vote.isValid.keyId, _, hgrant, hkeyId.symm,
      by simp [agentGrant_roles], rfl⟩
  have hverif : key.verifies vote.signature
      (canonicalVoteEnvelopeBytes vote.toEnvelopeFields false) := by
    rw [hsig]
    exact verifies_zeros _ _
  exact hrun.tail (a := .submitVoteEnvelope vote 0) trivial
    (recordVoteEnvelope_eq hhalted hname ha hfound hcurr (by rw [hfinal]; rfl) hcustody hfits
      hagent hauthorized hverif hnew 0)

theorem exists_rotated
    : ∃ t a, Run config start t ∧ Voted config t "i" a ∧ ¬Settleable config t a := by
  obtain ⟨a, _, hrun, ha, hname, hcurr, hpeers, -⟩ := exists_requested
  have happroval : ∀ name ∈ ["x", "y", "z"], ∀ byte, ∃ vote : VoteEnvelope, Fits config a vote ∧
      vote.voterId = name ∧ vote.approved ∧
      vote.keyId = keyIdForPublicKey (publicKey byte) ∧ vote.signature = zeros 128 :=
    fun name hmem byte => ha.exists_approval (hpeers ▸ hmem) _
  obtain ⟨x, hx, hxName, hxApproved, hxKey, hxSignature⟩ := happroval "x" (by decide) 3
  obtain ⟨y, hy, hyName, hyApproved, hyKey, hySignature⟩ := happroval "y" (by decide) 4
  obtain ⟨z, hz, hzName, hzApproved, hzKey, hzSignature⟩ := happroval "z" (by decide) 5
  have hfound : (requested a).assignments.lookup "i" = some a := by
    rw [requested, State.putAssignment, Assoc.lookup_set, hname, if_pos rfl]
  have hvotes : (requested a).votesOn "i" = [] := by
    rw [requested, State.votesOn, hname, Assoc.lookup_set, if_pos rfl, Option.getD_some]
  have henvs : (requested a).envelopesOn "i" = [] := rfl
  have hagents : members.agents = ["p", "x", "y", "z"] := by decide
  have hrun := run_ballot hrun ha hname hfound hcurr rfl rfl rfl hx
    (by rw [hxName]; exact hagents ▸ by decide) hxKey hxSignature (by rw [hxName]; rfl)
    (by simp [hvotes])
  have hrun : Run config start (((requested a).ballot "i" x 0).enroll "x" (publicKey 6)) := by
    refine run_enroll hrun (by decide) (by decide) ?_
    intro other grant hgrant _
    simp only [State.ballot, requested, State.putAssignment, members, State.enroll, start_registry,
      Registry.lookup_rotate, Registry.empty] at hgrant
    split_ifs at hgrant
    all_goals first
      | cases hgrant
        exact publicKey_ne (by decide)
      | simp at hgrant
  have hrun := run_ballot hrun ha hname hfound hcurr rfl rfl rfl hy
    (by rw [hyName]; exact hagents ▸ by decide) hyKey hySignature (by rw [hyName]; rfl)
    (by simp [hvotes, hxName, hyName])
  have hrun := run_ballot hrun ha hname hfound hcurr rfl rfl rfl hz
    (by rw [hzName]; exact hagents ▸ by decide) hzKey hzSignature (by rw [hzName]; rfl)
    (by simp [hvotes, hxName, hyName, hzName])
  refine ⟨_, a, hrun, ⟨hfound, hcurr, rfl, ?_, ?_⟩, ?_⟩
  . simp [hpeers, hvotes, hxName, hyName, hzName]
  . have hquorum : a.quorum ≤ 3 := by
      obtain ⟨-, hle⟩ := ha.quorum_bounds
      simpa [hpeers] using hle
    rw [ha.settlementOutcomes_eq]
    simp [hvotes, hxApproved, hyApproved, hzApproved, hquorum]
  . intro hsettleable
    obtain ⟨-, _, hauthorized, -⟩ := hsettleable.receivable.voters x (by rw [hname]; simp [henvs])
    obtain ⟨_, hident, -, grant, hgrant, hkeyId, -⟩ := Registry.authorize_eq_ok.mp hauthorized
    rw [show normalizeVoterId x.voterId = .ok x.voterId from x.isValid.voter,
      Except.ok.injEq] at hident
    rw [← hident, hxName] at hgrant
    have hcurrentKey : grant.keyId = keyIdForPublicKey (publicKey 6) := by
      obtain rfl : agentGrant "x" (publicKey 6) = grant := Option.some.inj hgrant
      rfl
    rw [hcurrentKey, hxKey, keyIdForPublicKey_inj] at hkeyId
    exact publicKey_ne (by decide) hkeyId

theorem settle_rotated_voter_not_persisted
    : ∃ t a, Run config start t ∧ Voted config t "i" a ∧
      ¬Persisted (settle config t "i" 0) "i" := by
  obtain ⟨t, a, hrun, hv, hnot⟩ := exists_rotated
  refine ⟨t, a, hrun, hv, fun hpersisted => hnot ?_⟩
  exact ((hrun.inv config_valid start_initial).persisted_iff config_valid hv 0).mp hpersisted

theorem settle_persisted_iff_settleable_rotated
    : ∃ t a, config.Valid ∧ Initial start ∧ Run config start t ∧ Voted config t "i" a ∧
      (Persisted (settle config t "i" 0) "i" ↔ Settleable config t a) := by
  obtain ⟨t, a, hrun, hv, -⟩ := exists_rotated
  exact ⟨t, a, config_valid, start_initial, hrun, hv,
    settle_persisted_iff_settleable config_valid start_initial hrun hv 0⟩

theorem one_vote_each_rotated
    : ∃ t a, Run config start t ∧ Voted config t "i" a ∧
      ((t.votesOn "i").map (·.voterId)).Nodup := by
  obtain ⟨t, a, hrun, hv, -⟩ := exists_rotated
  have hvotes := one_vote_each config_valid start_initial hrun hv.found hv.current hv.unsettled
  exact ⟨t, a, hrun, hv, hvotes.1⟩

end Mesh.Sample
