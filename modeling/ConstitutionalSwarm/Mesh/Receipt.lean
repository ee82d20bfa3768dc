import ConstitutionalSwarm.Mesh.Settlement

namespace Mesh

open Raising
open PyValue (Dict)

variable [Platform]

inductive SignerRole where
  | assigner
  | validator
  | coordinator
  | settlement
  deriving DecidableEq

def SignerRole.ofValue? (value : String) : Option SignerRole :=
  if value = "assigner" then some .assigner
  else if value = "validator" then some .validator
  else if value = "coordinator" then some .coordinator
  else if value = "settlement" then some .settlement
  else none

structure TrustGrant where
  identityId : String
  publicKeyHex : String
  roles : List String
  deriving DecidableEq

abbrev TrustedSigners := List (String × TrustGrant)

def exportTrustGrants (grants : List Grant) (role : String) : TrustedSigners :=
  let required := normalizeRole role
  (grants.filter fun grant => required ∈ grant.roles).foldl
    (fun signers grant =>
      Assoc.set grant.keyId ⟨grant.identity, Hex.encode grant.key.raw, [required]⟩ signers) []

structure SignerTrustGrant where
  identityId : String
  publicKeyHex : String
  roles : List SignerRole
  deriving DecidableEq

def rolesOf (roles : List String) : Py (List SignerRole) :=
  roles.mapM fun role =>
    match SignerRole.ofValue? role with
    | some role => .ok role
    | none => .error (.valueError
        "Input should be 'assigner', 'validator', 'coordinator' or 'settlement'")

def SignerTrustGrant.ofGrant (grant : TrustGrant) : Py SignerTrustGrant := do
  let identityId ← normalizeVoterId grant.identityId
  ensure (Hex.isCanonical 64 grant.publicKeyHex)
    (.valueError "public_key_hex must be 64 lowercase hexadecimal characters")
  let roles ← rolesOf grant.roles
  raiseIf (roles = []) (.valueError "at least one signer role is required")
  raiseIf (.assigner ∈ roles ∧ .validator ∈ roles)
    (.valueError "assigner and validator roles are mutually exclusive")
  raiseIf (.settlement ∈ roles ∧ (.assigner ∈ roles ∨ .validator ∈ roles))
    (.valueError "settlement role is mutually exclusive with assigner and validator roles")
  return ⟨identityId, grant.publicKeyHex, roles⟩

abbrev SignerGrants := List (String × SignerTrustGrant)

structure ParsedGrants where
  grants : SignerGrants
  identities : List (String × String × String)
  publicKeyOwners : List (String × String)

def parseTrustGrant (parsed : ParsedGrants) (entry : String × TrustGrant) : Py ParsedGrants := do
  raiseIf (entry.1 = "")
    (.valueError "signer trust registry key IDs must be non-empty strings")
  let grant ← SignerTrustGrant.ofGrant entry.2
  raiseIf ((parsed.identities.lookup grant.identityId).any (· ≠ (entry.1, grant.publicKeyHex)))
    (.valueError "signer identity is already registered to another key")
  raiseIf ((parsed.publicKeyOwners.lookup grant.publicKeyHex).any (· ≠ grant.identityId))
    (.valueError "signer public key is already registered to another identity")
  return {
    grants := Assoc.set entry.1 grant parsed.grants
    identities := Assoc.set grant.identityId (entry.1, grant.publicKeyHex) parsed.identities
    publicKeyOwners := Assoc.set grant.publicKeyHex grant.identityId parsed.publicKeyOwners }

def parseTrustGrants (trustedSigners : TrustedSigners) : Py SignerGrants := do
  raiseIf (trustedSigners = []) (.valueError
    "structured signer trust registry is required to verify vote envelopes")
  let parsed ← trustedSigners.foldlM parseTrustGrant ⟨[], [], []⟩
  return parsed.grants

def voteRoles (roles : List SignerRole) : List String :=
  (if .validator ∈ roles then ["voter"] else []) ++ if .assigner ∈ roles then ["assigner"] else []

def registerTrustGrant (registry : Registry) (entry : String × SignerTrustGrant) : Py Registry := do
  let roles := voteRoles entry.2.roles
  if roles = [] then return registry
  let key ← publicKeyFrom (.bytes ((Hex.decode entry.2.publicKeyHex).getD []))
  let registry ← registry.register entry.2.identityId key roles
  raiseIf (entry.1 ≠ keyIdForPublicKey key)
    (.valueError "vote trust registry key ID must equal the public-key fingerprint")
  return registry

def voteRegistryFromGrants (grants : SignerGrants) : Py Registry :=
  grants.foldlM registerTrustGrant .empty

structure RoleIdentity where
  identityId : String
  displayName : String
  deriving DecidableEq

structure Roles where
  constitutionAuthor : RoleIdentity
  executor : RoleIdentity
  validator : RoleIdentity
  auditor : RoleIdentity
  deriving DecidableEq

def Roles.entries (roles : Roles) : List (String × RoleIdentity) :=
  [("constitution_author", roles.constitutionAuthor), ("executor", roles.executor),
    ("validator", roles.validator), ("auditor", roles.auditor)]

inductive VoteDecision where
  | approve
  | deny
  | abstain
  deriving DecidableEq

def VoteDecision.value : VoteDecision → String
  | .approve => "approve"
  | .deny => "deny"
  | .abstain => "abstain"

structure ValidatorVote where
  validatorId : String
  decision : VoteDecision
  rationale : String
  dissent : Bool
  deriving DecidableEq

inductive ReceiptDecision where
  | approved
  | denied
  | escalated
  deriving DecidableEq

def ReceiptDecision.value : ReceiptDecision → String
  | .approved => "approved"
  | .denied => "denied"
  | .escalated => "escalated"

structure ReceiptPayload where
  receiptId : String
  action : String
  policyVersion : String
  policyHash : String
  roles : Roles
  evidenceHashes : List (String × String)
  decision : ReceiptDecision
  validatorVotes : List ValidatorVote
  voteEnvelopes : Option (List Dict)
  assignedPeers : Option (List String)
  signedAssignment : Option Dict
  rejectedAlternative : String
  previousReceiptHash : Option String
  metadata : List (String × String)

def countVotes (votes : List ValidatorVote) (decision : VoteDecision) : Nat :=
  votes.countP (·.decision = decision)

variable (payload : ReceiptPayload) (record : SettlementRecord)

def decisionSupported : Bool :=
  let approvals := countVotes payload.validatorVotes .approve
  let denials := countVotes payload.validatorVotes .deny
  let abstentions := countVotes payload.validatorVotes .abstain
  match payload.decision with
  | .approved => approvals > denials
  | .denied => denials > 0 && denials ≥ approvals
  | .escalated => denials > 0 || abstentions > 0

def receiptPayloadSemanticIssues : List (String × String) :=
  let ids := payload.validatorVotes.map fun vote => normalizeRole vote.validatorId
  (if ids.any (· = "") then [("blank_validator_id", "validator IDs must be non-blank")] else []) ++
  (if ¬ids.Nodup then [("duplicate_validator_id",
    "validator IDs must be unique within a receipt after normalization")] else []) ++
  if !decisionSupported payload then [("decision_vote_mismatch", "receipt decision '" ++
    payload.decision.value ++ "' is not supported by validator votes")] else []

def ReceiptPayload.validateFields : Py Unit := do
  let error := Apcc.PyError.valueError "String should have at least 1 character"
  raiseIf (payload.receiptId = "" ∨ payload.action = "" ∨ payload.policyVersion = "" ∨
    payload.policyHash = "" ∨ payload.rejectedAlternative = "") error
  raiseIf (payload.roles.entries.any fun e => e.2.identityId = "" || e.2.displayName = "") error
  raiseIf (payload.validatorVotes.any fun vote => vote.rationale = "") error
  raiseIf (payload.evidenceHashes = [])
    (.valueError "at least one evidence hash is required")
  raiseIf (payload.evidenceHashes.any fun e => e.1 = "" || e.2 = "")
    (.valueError "evidence names and hashes must be non-empty")
  raiseIf (payload.validatorVotes = []) (.valueError "at least one validator vote is required")

def validateReceiptPayload : Py Unit :=
  let issues := receiptPayloadSemanticIssues payload
  raiseIf (issues ≠ []) (.valueError ("; ".intercalate (issues.map Prod.snd)))

def buildPayload (fields : ReceiptPayload) : Py ReceiptPayload := do
  fields.validateFields
  let votes ← fields.validatorVotes.mapM fun vote => do
    let validatorId ← normalizeVoterId vote.validatorId
    return { vote with validatorId }
  let payload := { fields with validatorVotes := votes }
  validateReceiptPayload payload
  return payload

def RoleIdentity.toDict (role : String) (identity : RoleIdentity) : PyValue :=
  .dict [("role", .str role), ("identity_id", .str identity.identityId),
    ("display_name", .str identity.displayName)]

def ValidatorVote.toDict (vote : ValidatorVote) : PyValue :=
  .dict [("validator_id", .str vote.validatorId), ("decision", .str vote.decision.value),
    ("rationale", .str vote.rationale), ("dissent", .bool vote.dissent)]

def textDict (entries : List (String × String)) : PyValue :=
  .dict (entries.map fun e => (e.1, .str e.2))

def optionalText : Option String → PyValue
  | some text => .str text
  | none => .none

def payloadMapping : Dict :=
  [("receipt_id", .str payload.receiptId), ("action", .str payload.action),
    ("policy_version", .str payload.policyVersion), ("policy_hash", .str payload.policyHash),
    ("roles", .dict (payload.roles.entries.map fun e => (e.1, e.2.toDict e.1))),
    ("evidence_hashes", textDict payload.evidenceHashes),
    ("decision", .str payload.decision.value),
    ("validator_votes", .list (payload.validatorVotes.map ValidatorVote.toDict)),
    ("rejected_alternative", .str payload.rejectedAlternative),
    ("previous_receipt_hash", optionalText payload.previousReceiptHash),
    ("metadata", textDict payload.metadata)] ++
  (payload.voteEnvelopes.toList.map fun items =>
    ("vote_envelopes", .list (items.map .dict))) ++
  (payload.assignedPeers.toList.map fun peers =>
    ("assigned_peers", .list (peers.map .str))) ++
  payload.signedAssignment.toList.map fun data => ("signed_assignment", .dict data)

def canonicalJsonBytes (value : Dict) : Bytes :=
  (PyValue.dumps true Platform.floatRepr (.dict value)).encodeUTF8

def payloadCanonicalBytes : Bytes :=
  canonicalJsonBytes (payloadMapping payload)

def sha256Hex (data : Bytes) : String :=
  Hex.encode (Apcc.Platform.sha256 data)

def payloadDigest : String :=
  sha256Hex (payloadCanonicalBytes payload)

inductive SignatureAlgorithm where
  | ed25519
  | none
  deriving DecidableEq

structure SignatureRecord where
  keyId : String
  algorithm : SignatureAlgorithm
  publicKeyHex : Option String
  signatureHex : Option String
  deriving DecidableEq

structure GovernanceReceipt where
  payload : ReceiptPayload
  payloadDigest : String
  signatures : List SignatureRecord

def unsignedRecord : SignatureRecord :=
  ⟨"unsigned", .none, none, none⟩

def buildReceipt (signatures : List SignatureRecord)
    : Py GovernanceReceipt := do
  validateReceiptPayload payload
  return {
    payload
    payloadDigest := payloadDigest payload
    signatures := if signatures = [] then [unsignedRecord] else signatures }

def profileVersion : String := "acgs.local.intoto-dsse-shaped.v0.1"
def voteEvidenceVersion : String := "constitutional-swarm.vote-envelope.v3"

def canonicalTimestamp : PyFloat → String
  | .finite value => Platform.floatG17 value
  | .inf false => "inf"
  | .inf true => "-inf"
  | .nan => "nan"

mutual

def normalizeValue : PyValue → PyValue
  | .float f => .str (canonicalTimestamp f)
  | .list elems => .list (normalizeElems elems)
  | .dict fields => .dict (normalizeFields fields)
  | value => value

def normalizeElems : List PyValue → List PyValue
  | [] => []
  | v :: vs => normalizeValue v :: normalizeElems vs

def normalizeFields : List (String × PyValue) → List (String × PyValue)
  | [] => []
  | (k, v) :: fields => (k, normalizeValue v) :: normalizeFields fields

end

def encodeSettlementRecordV1 : Bytes :=
  let payload : Dict :=
    [("assignment", .dict record.assignment), ("constitutional_hash", record.constitutionalHash),
      ("is_recovered", .bool record.isRecovered), ("result", .dict record.result),
      ("schema_version", .int record.schemaVersion)]
  "constitutional-swarm/settlement-record/v1\n".encodeUTF8 ++
    canonicalJsonBytes [("domain", .str "settlement-record"),
      ("payload", .dict (normalizeFields payload)), ("version", .int 1)]

def settlementRecordDigest (voteEnvelopes : List Dict) : String :=
  let payload : Dict :=
    [("assignment", .dict record.assignment), ("constitutional_hash", record.constitutionalHash),
      ("is_recovered", .bool record.isRecovered), ("result", .dict record.result),
      ("schema_version", .int 2), ("vote_envelopes", .list (voteEnvelopes.map .dict))]
  sha256Hex (canonicalJsonBytes
    [("domain", .str "settlement-record"), ("payload", .dict payload), ("version", .int 2)])

def settlementCanonicalDigest (voteEnvelopes : List Dict) : Py String :=
  if record.schemaVersion = 1 then .ok (sha256Hex (encodeSettlementRecordV1 record))
  else if record.schemaVersion ≠ 2 then
    .error (.valueError ("unsupported settlement schema_version " ++ toString record.schemaVersion))
  else .ok (settlementRecordDigest record voteEnvelopes)

def checkAssignedPeers (rawPeers : PyValue) (producerId : String) : Py (List String) := do
  let error := Apcc.PyError.valueError "assigned peers must be a non-empty string list"
  let elems ←
    match rawPeers with
    | .list elems => if elems.isEmpty then .error error else .ok elems
    | _ => .error error
  let canonical ← elems.mapM fun
    | .str peer => do
      let normalized ← normalizeVoterId peer
      raiseIf (peer ≠ normalized)
        (.valueError "assigned peer identities must already be canonical")
      return normalized
    | _ => .error error
  raiseIf (¬canonical.Nodup)
    (.valueError "assigned peers must contain distinct canonical identities")
  let producer ← normalizeVoterId producerId
  raiseIf (producer ∈ canonical)
    (.valueError "producer identity cannot appear in assigned peers")
  return canonical

def verifyBoundVoteEnvelopes (rawAssignment : Dict) (rawEnvelopes : List Dict)
    (grants : SignerGrants) (binding : Binding) (expectedAssignedPeers : List String)
    (expectedQuorum : Option Int) (requireIndependent : Bool) : Py (List VoteEnvelope) := do
  raiseIf rawEnvelopes.isEmpty (.valueError "at least one signed vote envelope is required")
  let envelopes ← rawEnvelopes.mapM voteEnvelopeFromDict
  let assignment ← signedAssignmentFromDict rawAssignment
  let registry ← voteRegistryFromGrants grants
  verifyAssignmentVoteEnvelopes (.object assignment) (envelopes.map .object) registry binding
    { requireIndependent, expectedAssignedPeers := some expectedAssignedPeers, expectedQuorum }

def tallyMatches (claimed : PyValue) (count : Nat) : Bool :=
  match claimed with
  | .none => true
  | .int claimed => claimed = count
  | _ => false

def countApproved (envelopes : List VoteEnvelope) : Nat :=
  envelopes.countP VoteEnvelope.approved

def uniqueOutcome (peerCount : Nat) (quorum : Int) (approvals denials : Nat) : Py Bool :=
  let threshold : Int := max (peerCount / 2 + 1 : ℕ) quorum
  let approval : Bool := approvals ≥ threshold
  let denial : Bool := denials ≥ threshold
  if approval = denial then
    .error (.valueError "settlement vote envelopes have no unique strict-majority outcome")
  else .ok approval

def projectVote (envelope : VoteEnvelope) : ValidatorVote where
  validatorId := envelope.voterId
  decision := if envelope.approved then .approve else .deny
  rationale := if envelope.reason = "" then "No rationale provided" else envelope.reason
  dissent := false

def settlementRoles (producerId validatorId : String) : Roles where
  constitutionAuthor := ⟨"constitution", "constitution"⟩
  executor := ⟨producerId, producerId⟩
  validator := ⟨if validatorId ≠ producerId then validatorId else "mesh-validator",
    "mesh-validator"⟩
  auditor := ⟨"acgs-verify-receipts", "acgs-verify-receipts"⟩

def settlementMetadata (binding : Binding) (peerCount : Nat) (quorum : Int) (mode : EvidenceMode)
    : List (String × String) :=
  [("assignment_id", binding.assignmentId), ("assigned_peer_count", toString peerCount),
    ("quorum", toString quorum), ("artifact_id", binding.artifactId),
    ("content_hash", binding.contentHash), ("producer_id", binding.producerId),
    ("profile", profileVersion), ("claim", "local-dsse-shaped-receipt"),
    ("signer_role", "settlement"), ("task_id", binding.taskId),
    ("vote_evidence_version", voteEvidenceVersion), ("vote_evidence_mode", mode.value)]

section Settlement

variable [Interpreter]

def acceptedOf : PyValue → Py Bool
  | .bool accepted => .ok accepted
  | _ => .error (.valueError "settlement accepted result must be a boolean")

def expectedQuorumOf : PyValue → Py (Option Int)
  | .none => .ok none
  | .int quorum => .ok (some quorum)
  | _ => .error (.valueError "settlement assignment quorum must be an integer")

def rawSignedAssignmentOf : PyValue → Py Dict
  | .dict data => .ok data
  | _ => .error (.valueError "settlement signed assignment evidence is required")

def recordBinding : Binding where
  taskId := getText record.assignment "task_id" ""
  assignmentId := getText record.assignment "assignment_id" ""
  producerId := getText record.assignment "producer_id" ""
  artifactId := getText record.assignment "artifact_id" ""
  contentHash := getText record.assignment "content_hash" ""
  constitutionalHash := record.constitutionalHash.text

def settlementPayload (assignedPeers : List String) (rawSignedAssignment : Dict)
    (envelopes : List VoteEnvelope) (first : VoteEnvelope) (accepted : Bool)
    (settlementDigest : String) : ReceiptPayload :=
  let binding := recordBinding record
  { receiptId := "mesh-" ++ binding.assignmentId
    action := getText record.assignment "artifact_id" binding.assignmentId
    policyVersion := "local-constitution"
    policyHash := binding.constitutionalHash
    roles := settlementRoles binding.producerId first.voterId
    evidenceHashes := [("settlement", settlementDigest),
      ("content", getText record.assignment "content_hash" "none")]
    decision := if accepted then .approved else .denied
    validatorVotes := envelopes.map projectVote
    voteEnvelopes := some (voteDicts envelopes)
    assignedPeers := some assignedPeers
    signedAssignment := some rawSignedAssignment
    rejectedAlternative := "execute-without-settlement"
    previousReceiptHash := none
    metadata := settlementMetadata binding assignedPeers.length first.electorate.quorum
      first.electorate.evidenceMode }

def receiptOfEnvelopes (assignedPeers : List String) (rawSignedAssignment : Dict)
    (signatures : List SignatureRecord)
    : List VoteEnvelope → Py GovernanceReceipt
  | [] => .error (.valueError "tuple index out of range")
  | first :: rest => do
    let envelopes := first :: rest
    raiseIf (first.electorate.quorum < 3)
      (.valueError "proof-grade receipt quorum must be at least 3")
    let approvals := countApproved envelopes
    let denials := envelopes.length - approvals
    ensure (tallyMatches (record.result.get "votes_for") approvals)
      (.valueError "settlement votes_for does not match verified vote envelope tally")
    ensure (tallyMatches (record.result.get "votes_against") denials)
      (.valueError "settlement votes_against does not match verified vote envelope tally")
    let accepted ← acceptedOf (record.result.get "accepted")
    let outcome ← uniqueOutcome assignedPeers.length first.electorate.quorum approvals denials
    raiseIf (accepted ≠ outcome)
      (.valueError "settlement accepted result does not match verified vote envelope tally")
    let settlementDigest ← settlementCanonicalDigest record (voteDicts envelopes)
    let payload ← buildPayload (settlementPayload record assignedPeers rawSignedAssignment
      envelopes first accepted settlementDigest)
    buildReceipt payload signatures

def receiptFromMeshSettlement (votes : List Dict) (signatures : List SignatureRecord)
    (trustedSigners : TrustedSigners) (requireIndependent : Bool) : Py GovernanceReceipt := do
  let binding := recordBinding record
  raiseIf (binding.assignmentId = "") (.valueError "settlement assignment_id is required")
  raiseIf (record.schemaVersion ≠ 2)
    (.valueError "proof-grade receipts require settlement schema_version 2")
  raiseIf (binding.taskId = "" ∨ binding.producerId = "" ∨ binding.artifactId = "" ∨
      binding.contentHash = "" ∨ binding.constitutionalHash = "")
    (.valueError "settlement is missing vote-envelope subject bindings")
  raiseIf votes.isEmpty (.valueError "at least one signed vote envelope is required")
  let rawSignedAssignment ← rawSignedAssignmentOf (record.assignment.get "signed_assignment")
  let assignedPeers ← checkAssignedPeers (record.assignment.get "peers") binding.producerId
  let expectedQuorum ← expectedQuorumOf (record.assignment.get "quorum")
  let grants ← parseTrustGrants trustedSigners
  let envelopes ← verifyBoundVoteEnvelopes rawSignedAssignment votes grants binding assignedPeers
    expectedQuorum requireIndependent
  receiptOfEnvelopes record assignedPeers rawSignedAssignment signatures envelopes

end Settlement

def SignerRole.value : SignerRole → String
  | .assigner => "assigner"
  | .validator => "validator"
  | .coordinator => "coordinator"
  | .settlement => "settlement"

def receiptSignerKeyId : String := "settlement-receipt"

def normalizeReceiptDigest : Option String → Py (Option String)
  | none => .ok none
  | some value =>
    if value = "" then .ok none
    else if Hex.isCanonical 64 value then .ok (some value)
    else .error (.valueError
      ("receipt_digest must be a 64-character lowercase sha256 hex digest " ++
      "or empty/None, got '" ++ value ++ "'"))

end Mesh
