import ConstitutionalSwarm.Apcc.Store.Schema
import ConstitutionalSwarm.Framing

namespace Apcc

def json (value : Json) : String :=
  value.dumps false

def loads (value : String) : Py Json :=
  (Json.plainHooks (.valueError "invalid JSON")).loads value

def predecessorsJson (predecessors : List PredecessorRef) : String :=
  json (.arr (predecessors.map PredecessorRef.toObject))

variable (request : AtomicCommitRequest)

def authorityRequestObject : Json :=
  .obj
    [("bindings", request.bindings.toObject), ("commit_id", .str request.commitId),
      ("context", request.context.toObject), ("evidence", request.evidence.toObject),
      ("nonce", .str request.nonce), ("signatures", request.signatures.toObject),
      ("subject", request.subject.toObject)]

def authorityRequestJson : String :=
  json (authorityRequestObject request)

def optionalText : Option String → Json
  | none => .null
  | some s => .str s

def operationRequestObject (oldCertificateDigest : Option String)
    : Json :=
  .obj
    [("old_certificate_digest", optionalText oldCertificateDigest),
      ("operation_kind", .str (if oldCertificateDigest.isSome then "SUPERSEDE" else "COMMIT")),
      ("request", authorityRequestObject request)]

def operationRequestJson (oldCertificateDigest : Option String)
    : String :=
  json (operationRequestObject request oldCertificateDigest)

def asObject (error : PyError) : Json → Py Fields
  | .obj fields => .ok fields
  | _ => .error error

def asArray (error : PyError) : Json → Py (List Json)
  | .arr items => .ok items
  | _ => .error error

def requestFromJson (value : String) : Py AtomicCommitRequest := do
  let parsed ← asObject (.valueError "invalid persisted authority request") (← loads value)
  ensure (expectKeys parsed
    ["subject", "context", "evidence", "bindings", "signatures", "commit_id", "nonce"] = .ok ())
    (.valueError "invalid persisted authority request")
  let subject ← nested parsed "subject" CertificateSubject.fromObject
  let context ← nested parsed "context" CertificateContext.fromObject
  let evidence ← nested parsed "evidence" CertificateEvidence.fromObject
  let bindings ← nested parsed "bindings" CertificateBindings.fromObject
  let signatures ← nested parsed "signatures" CertificateSignatures.fromObject
  let commitId ← string parsed "commit_id"
  let nonce ← string parsed "nonce"
  return ⟨subject, context, evidence, bindings, signatures, commitId, nonce, ""⟩

def operationOld (error : PyError) : Json → Json → Py (Option String)
  | .str "COMMIT", .null => .ok none
  | .str "SUPERSEDE", .str old => .ok (some old)
  | _, _ => .error error

def operationFromJson (value : String) : Py (AtomicCommitRequest × Option String) := do
  let invalid := PyError.valueError "invalid persisted authority operation"
  let parsed ← asObject invalid (← loads value)
  ensure (expectKeys parsed ["operation_kind", "old_certificate_digest", "request"] = .ok ())
    invalid
  let old ← operationOld invalid (← item parsed "operation_kind")
    (← item parsed "old_certificate_digest")
  let request ← requestFromJson (json (← item parsed "request"))
  return (request, old)

section Identities

variable [Platform]

def operationIdentity (oldCertificateDigest : Option String)
    : String :=
  sha256Digest (operationRequestJson request oldCertificateDigest).encodeUTF8

def publicRequestDigest : Py String := do
  return sha256Digest (← canonicalStatement request.evidence.producerStatement)

def proposalIdentity : String :=
  sha256Digest (authorityRequestJson request).encodeUTF8

def legacyDecisionAuditKinds : List String :=
  ["commit", "DENIED", "CONFLICTED", "conflict"]

def auditId (kind : String) (parts : List String) : String :=
  if legacyDecisionAuditKinds.contains kind then
    sha256Digest (kind ++ "\x00" ++ "\x00".intercalate parts).encodeUTF8
  else
    -- a text of 2 ^ 64 bytes, on which `framed_digest` raises, does not exist
    match Framing.framedDigest "apcc.audit-id.v2".encodeUTF8 (.text kind :: parts.map .text) with
    | .ok digest => Base64.encode digest
    | .error _ => ""

end Identities

def auditRow (auditEventId kind subject : String) (details : List (String × String))
    : AuditRow where
  auditEventId := auditEventId
  eventJson := json (.obj (Json.dict
    (("kind", .str kind) :: ("subject", .str subject) :: details.map fun d => (d.1, .str d.2))))

def oldCertificateDetail : Option String → List (String × String)
  | some old => if old = "" then [] else [("old_certificate_digest", old)]
  | none => []

end Apcc
