import ConstitutionalSwarm.Apcc.Store.Step
import ConstitutionalSwarm.Data.Worklist

namespace Apcc

def logicalNodeState (workflowId nodeId version : String) (certificateDigest : Option String)
    : Py LogicalNodeState :=
  match h : PyInt.int? version with
  | none => .error (.valueError "current node version must be a decimal string")
  | some n =>
    if hvalid : 0 ≤ n ∧ (n = 0 ↔ certificateDigest = none) then
      .ok ⟨workflowId, nodeId, version, certificateDigest, n, h, hvalid⟩
    else if n < 0 then .error (.valueError "current node version cannot be negative")
    else .error (.valueError "only an initial logical node may omit its certificate digest")

variable (s : Store)

section Snapshots

variable [Platform]

end Snapshots

section Facts

variable (snapshot : SemanticSnapshot)

end Facts

structure AuthorityStatus where
  protocolVersion : String
  statementType : String
  authorityStoreId : String
  statusKeyId : String
  requestNonce : String
  certificateDigest : String
  certificateSequence : String
  trustLogSequence : String
  trustLogHead : String
  status : AuthorityStatusValue
  actorRevocationGeneration : String
  workflowRevocationGeneration : String
  superseded : SupersessionValue
  thisUpdateMs : String
  nextUpdateMs : String
  signature : Signature
  valid : protocolVersion = "APCC-1.0-draft" ∧ statementType = "apcc.authority-status"
  deriving DecidableEq

def AuthorityStatus.bodyObject (v : AuthorityStatus) : Json :=
  .obj
    [("protocol_version", .str v.protocolVersion), ("statement_type", .str v.statementType),
      ("authority_store_id", .str v.authorityStoreId), ("status_key_id", .str v.statusKeyId),
      ("request_nonce", .str v.requestNonce), ("certificate_digest", .str v.certificateDigest),
      ("certificate_sequence", .str v.certificateSequence),
      ("trust_log_sequence", .str v.trustLogSequence), ("trust_log_head", .str v.trustLogHead),
      ("status", .str v.status.value),
      ("actor_revocation_generation", .str v.actorRevocationGeneration),
      ("workflow_revocation_generation", .str v.workflowRevocationGeneration),
      ("superseded", .str v.superseded.value), ("this_update_ms", .str v.thisUpdateMs),
      ("next_update_ms", .str v.nextUpdateMs)]

section Status

variable [Platform] (authority : Authority)

end Status

end Apcc
