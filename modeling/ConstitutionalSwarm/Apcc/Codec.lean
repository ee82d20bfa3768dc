import ConstitutionalSwarm.Apcc.Crypto
import ConstitutionalSwarm.Apcc.ModelLemmas

namespace Json

mutual

def sortKeys : Json → Json
  | .arr vs => .arr (sortKeysElems vs)
  | .obj fs => .obj (dict (sortKeysFields fs))
  | v => v

def sortKeysElems : List Json → List Json
  | [] => []
  | v :: vs => sortKeys v :: sortKeysElems vs

def sortKeysFields : List (String × Json) → List (String × Json)
  | [] => []
  | (k, v) :: fs => (k, sortKeys v) :: sortKeysFields fs

end

end Json

namespace Apcc

variable [Platform]

def maxPayloadBytes : Nat := 1024 * 1024
def maxEnvelopeBytes : Nat := maxPayloadBytes * 4 / 3 + 2048
def maxDepth : Nat := 8
def maxPredecessors : Nat := 4096
def maxSafeInteger : Nat := 9007199254740991

def fail {α : Type} (code : FailureCode) : Py α :=
  .error (.codecError code)

def isAscii (s : String) : Bool :=
  s.toList.all (·.toNat < 128)

mutual

def tree (depth : Nat) : Json → Py Unit
  | .str s => do
    raiseIf (maxDepth < depth) (.codecError .depthLimitExceeded)
    raiseIf (!isAscii s && !Platform.isNFC s) (.codecError .invalidUnicode)
  | .obj fs => do
    raiseIf (maxDepth < depth) (.codecError .depthLimitExceeded)
    treeFields (depth + 1) fs
  | .arr vs => do
    raiseIf (maxDepth < depth) (.codecError .depthLimitExceeded)
    treeElems (depth + 1) vs
  | .null | .bool _ | .int _ => do
    raiseIf (maxDepth < depth) (.codecError .depthLimitExceeded)
    fail .wrongJsonType

def treeElems (depth : Nat) : List Json → Py Unit
  | [] => .ok ()
  | v :: vs => do
    tree depth v
    treeElems depth vs

def treeFields (depth : Nat) : List (String × Json) → Py Unit
  | [] => .ok ()
  | (k, v) :: fs => do
    raiseIf (!isAscii k) (.codecError .unknownField)
    tree depth v
    treeFields depth fs

end

def canonical (value : Json) : Py Bytes := do
  tree 1 value
  return (value.sortKeys.dumps false).encodeUTF8

structure Scan where
  depth : Nat
  inString : Bool
  escaped : Bool

def Scan.step (s : Scan) (c : Char) : Py Scan :=
  if s.inString then
    if s.escaped then .ok { s with escaped := false }
    else if c = '\\' then .ok { s with escaped := true }
    else if c = '"' then .ok { s with inString := false }
    else .ok s
  else if c = '"' then .ok { s with inString := true }
  else if c = '[' || c = '{' then
    if maxDepth < s.depth + 1 then fail .depthLimitExceeded
    else .ok { s with depth := s.depth + 1 }
  else if c = ']' || c = '}' then .ok { s with depth := s.depth - 1 }
  else .ok s

def scanDepth (text : List Char) : Py Scan :=
  text.foldlM Scan.step ⟨0, false, false⟩

def hasDuplicates (keys : List String) : Bool :=
  !decide keys.Nodup

def strictHooks : Json.Hooks PyError where
  malformed := .codecError .malformedJson
  object pairs :=
    if hasDuplicates (pairs.map Prod.fst) then fail .duplicateField else .ok (.obj pairs)
  int _ := fail .wrongJsonType
  float := .codecError .wrongJsonType
  constant := .codecError .wrongJsonType

variable (raw : Bytes) (value : String)

def parse (maxBytes : Nat) : Py Json := do
  raiseIf (maxBytes < raw.length) (.codecError .sizeLimitExceeded)
  let text ←
    match Bytes.decodeUTF8 raw with
    | some text => .ok text.toList
    | none => fail .invalidUnicode
  raiseIf (text.head? = some '﻿') (.codecError .invalidUnicode)
  let _ ← scanDepth text
  let (value, rest) ← strictHooks.value (text.length + 1) text
  raiseIf (!rest.isEmpty) (.codecError .trailingBytes)
  tree 1 value
  return value

inductive Schema where
  | text
  | strings (keys : List String)
  | object (fields : List (String × Schema))
  | list (item : Schema)

def signatureSchema : Schema :=
  .strings Signature.keys

def certificateSchema : Schema :=
  .object
    [("header", .strings CertificateHeader.keys),
      ("subject", .strings CertificateSubject.keys),
      ("context", .strings CertificateContext.keys),
      ("evidence", .object
        [("producer_statement", .strings CertificateEvidence.producerKeys),
          ("producer_statement_digest", .text),
          ("policy_statement", .strings CertificateEvidence.policyKeys),
          ("policy_statement_digest", .text),
          ("authority_statement", .strings CertificateEvidence.authorityKeys),
          ("authority_statement_digest", .text)]),
      ("decision", .strings CertificateDecision.keys),
      ("bindings", .object
        [("expected_node_version", .text), ("committed_node_version", .text),
          ("predecessor_root", .text), ("predecessors", .list (.strings PredecessorRef.keys))]),
      ("signatures", .object
        [("producer", signatureSchema), ("policy_authority", signatureSchema),
          ("authority_registry", signatureSchema)])]

def envelopeSchema : Schema :=
  .object
    [("envelope_type", .text), ("payload_b64u", .text), ("payload_sha256", .text),
      ("seal", signatureSchema)]

def checkKeys (actual expected : List String) : Py Unit := do
  let extra := actual.filter (!expected.contains ·)
  raiseIf (extra.any fun key => expected.any (key.toLower = ·.toLower))
    (.codecError .caseMismatchedField)
  raiseIf (!extra.isEmpty) (.codecError .unknownField)
  raiseIf (expected.any (!actual.contains ·)) (.codecError .missingField)

def fieldsOf : Json → Py Fields
  | .obj fields => .ok fields
  | _ => fail .wrongJsonType

mutual

def checkSchema (value : Json) : Schema → Py Unit
  | .text => ensure value.str?.isSome (.codecError .wrongJsonType)
  | .strings keys => do
    let fields ← fieldsOf value
    checkKeys (fields.map Prod.fst) keys
    ensure (fields.all (·.2.str?.isSome)) (.codecError .wrongJsonType)
  | .object schema => do
    let fields ← fieldsOf value
    checkKeys (fields.map Prod.fst) (schema.map Prod.fst)
    checkFields fields schema
  | .list item =>
    match value with
    | .arr values => do
      raiseIf (maxPredecessors < values.length) (.codecError .sizeLimitExceeded)
      values.forM fun value => checkSchema value item
    | _ => fail .wrongJsonType

def checkFields (fields : Fields) : List (String × Schema) → Py Unit
  | [] => .ok ()
  | (key, schema) :: rest => do
    checkSchema (← item fields key) schema
    checkFields fields rest

end

def decimalNames : List String :=
  ["certificate_sequence", "policy_version", "policy_epoch", "authority_epoch",
    "agent_revocation_generation", "actor_revocation_generation",
    "workflow_revocation_generation", "workflow_epoch", "expected_node_version",
    "committed_node_version", "issued_at_ms", "expires_at_ms", "committed_at_ms",
    "trust_log_sequence", "this_update_ms", "next_update_ms"]

def digestNames : List String :=
  ["input_digest", "output_digest", "authority_root", "producer_statement_digest",
    "policy_statement_digest", "authority_statement_digest", "proposal_digest",
    "predecessor_root", "certificate_digest", "payload_sha256", "trust_log_head"]

def idNames : List String :=
  ["authority_store_id", "commit_authority_key_id", "workflow_id", "node_id", "attempt_id",
    "agent_id", "policy_id", "commit_id", "producer_key_id", "policy_key_id", "authority_key_id",
    "status_key_id", "key_id"]

def isDecimal : Bool :=
  PyInt.isCanonical value && value.length ≤ 16 &&
    (PyInt.int? value).all (· ≤ (maxSafeInteger : Int))

def isNameChar (c : Char) : Bool :=
  c.isAlphanum || c = '.' || c = '_' || c = '/' || c = '-'

def isWord (isTail : Char → Bool) (n : Nat) : List Char → Bool
  | [] => false
  | c :: rest => c.isAlphanum && rest.all isTail && rest.length ≤ n

def isIdentifier : Bool :=
  isWord (fun c => isNameChar c || c = ':') 127 value.toList

def isAuthority : Bool :=
  let rest := value.toList.drop 10
  value.toList.take 10 = "authority:".toList &&
    isWord isNameChar 63 (rest.takeWhile (· ≠ ':')) &&
    match rest.dropWhile (· ≠ ':') with
    | [] => false
    | _ :: name => isWord isNameChar 63 name

def decodeB64u (length : Option Nat) : Py Bytes :=
  match Base64.decode value with
  | some decoded => if length.all (decoded.length = ·) then .ok decoded else fail .invalidBase64url
  | none => fail .invalidBase64url

def checkScalar (name value : String) : Py Unit :=
  if decimalNames.contains name then
    ensure (isDecimal value) (.codecError .invalidDecimalString)
  else if digestNames.contains name then (decodeB64u value (some 32)).map fun _ => ()
  else if name = "nonce" || name = "request_nonce" then
    (decodeB64u value (some 16)).map fun _ => ()
  else if name = "signature_b64u" then (decodeB64u value (some 64)).map fun _ => ()
  else if name = "payload_b64u" then (decodeB64u value none).map fun _ => ()
  else if name = "actor_authority" then
    ensure (isAuthority value) (.codecError .noncanonicalEncoding)
  else if idNames.contains name then
    ensure (isIdentifier value) (.codecError .noncanonicalEncoding)
  else .ok ()

mutual

def scalars (name : String) : Json → Py Unit
  | .obj fs => scalarsFields fs
  | .arr vs => scalarsElems name vs
  | .str s => checkScalar name s
  | .null | .bool _ | .int _ => fail .wrongJsonType

def scalarsElems (name : String) : List Json → Py Unit
  | [] => .ok ()
  | v :: vs => do
    scalars name v
    scalarsElems name vs

def scalarsFields : List (String × Json) → Py Unit
  | [] => .ok ()
  | (k, v) :: fs => do
    scalars k v
    scalarsFields fs

end

def decode (schema : Schema) (maxBytes : Nat) : Py Fields := do
  let value ← parse raw maxBytes
  let fields ← fieldsOf value
  raiseIf ((← canonical value) ≠ raw) (.codecError .noncanonicalEncoding)
  checkSchema value schema
  scalars "" value
  return fields

abbrev bytesLe (a b : Bytes) : Prop :=
  a.map UInt8.toNat ≤ b.map UInt8.toNat

def sortByCanonical {α : Type} (toObject : α → Json) (items : List α) : Py (List α) := do
  let keyed ← items.mapM fun item => do return (← canonical (toObject item), item)
  return (keyed.insertionSort fun a b => bytesLe a.1 b.1).map Prod.snd

def checkPredecessors (value : Fields) : Py Unit := do
  let bindings ← nested value "bindings" pure
  let items ← array bindings "predecessors" ""
  let members ← items.mapM canonical
  ensure (members.Pairwise bytesLe) (.codecError .noncanonicalEncoding)
  let nodes ← items.mapM fun item => do string (← object item) "node_id"
  let digests ← items.mapM fun item => do string (← object item) "certificate_digest"
  ensure (members.Nodup && nodes.Nodup && digests.Nodup) (.codecError .duplicateSetMember)

def requiredLiteral (value : Fields) (key expected : String) (code : FailureCode) : Py Unit := do
  ensure ((← string value key) = expected) (.codecError code)

def statementLiterals (evidence : Fields) (name statementType : String) : Py Unit := do
  let statement ← nested evidence name pure
  requiredLiteral statement "protocol_version" "APCC-1.0-draft" .unknownProtocolVersion
  requiredLiteral statement "statement_type" statementType .unsupportedStatementType

def certificateSemantics (value : Fields) : Py Unit := do
  let header ← nested value "header" pure
  requiredLiteral header "protocol_version" "APCC-1.0-draft" .unknownProtocolVersion
  requiredLiteral header "certificate_type" "apcc.commit-certificate" .unsupportedCertificateType
  requiredLiteral header "encoding_profile" "APCC-CJ1" .unsupportedEncoding
  requiredLiteral header "digest_algorithm" "SHA-256" .unsupportedDigestAlgorithm
  requiredLiteral header "signature_algorithm" "Ed25519" .unsupportedSignatureAlgorithm
  let evidence ← nested value "evidence" pure
  statementLiterals evidence "producer_statement" "apcc.producer-statement"
  statementLiterals evidence "policy_statement" "apcc.policy-statement"
  statementLiterals evidence "authority_statement" "apcc.authority-statement"
  requiredLiteral (← nested evidence "policy_statement" pure) "decision" "allow" .subjectMismatch
  requiredLiteral (← nested value "decision" pure) "outcome" "committed" .illegalNodeState
  let bindings ← nested value "bindings" pure
  let expected ← string bindings "expected_node_version"
  let committed ← string bindings "committed_node_version"
  ensure (CertificateBindings.advances expected committed) (.codecError .nodeVersionConflict)
  let signatures ← nested value "signatures" pure
  signatures.forM fun entry => do
    requiredLiteral (← object entry.2) "algorithm" "Ed25519" .unsupportedSignatureAlgorithm

def encodeCertificate (certificate : CommitCertificate) : Py Bytes := do
  let predecessors ← sortByCanonical PredecessorRef.toObject certificate.bindings.predecessors
  let value := { certificate with bindings := { certificate.bindings with predecessors } }
  let encoded ← canonical value.toObject
  checkPredecessors (← decode encoded certificateSchema maxPayloadBytes)
  return encoded

def noncanonical {α : Type} (x : Py α) : Py α :=
  match x with
  | .ok a => .ok a
  | .error _ => fail .noncanonicalEncoding

def decodeCertificate : Py CommitCertificate := do
  let value ← decode raw certificateSchema maxPayloadBytes
  checkPredecessors value
  certificateSemantics value
  noncanonical (CommitCertificate.fromObject value)

structure DetachedEnvelope where
  payload : Bytes
  payloadSha256 : String
  sealSignature : Signature

def envelopeObject (payload : Bytes) (sealSignature : Signature) : Json :=
  .obj
    [("envelope_type", .str "apcc.detached-certificate-envelope"),
      ("payload_b64u", .str (Base64.encode payload)),
      ("payload_sha256", .str (sha256Digest payload)),
      ("seal", sealSignature.toObject)]

def encodeEnvelope (payload : Bytes) (sealKeyId sealSignatureB64u : String) : Py Bytes := do
  let _ ← decodeCertificate payload
  let encoded ← canonical (envelopeObject payload ⟨"Ed25519", sealKeyId, sealSignatureB64u, rfl⟩)
  let _ ← decode encoded envelopeSchema maxPayloadBytes
  return encoded

def decodeEnvelopeCertificate : Py (DetachedEnvelope × CommitCertificate) := do
  let value ← decode raw envelopeSchema maxEnvelopeBytes
  ensure ((← string value "envelope_type") = "apcc.detached-certificate-envelope")
    (.codecError .unsupportedCertificateType)
  let sealFields ← nested value "seal" pure
  requiredLiteral sealFields "algorithm" "Ed25519" .unsupportedSignatureAlgorithm
  let payload ← decodeB64u (← string value "payload_b64u") none
  raiseIf (maxPayloadBytes < payload.length) (.codecError .sizeLimitExceeded)
  let certificate ← decodeCertificate payload
  let signature ← noncanonical (Signature.fromObject sealFields)
  return (⟨payload, ← string value "payload_sha256", signature⟩, certificate)

def decodeEnvelope : Py DetachedEnvelope := do
  return (← decodeEnvelopeCertificate raw).1

def canonicalStatement (statement : Statement) : Py Bytes :=
  canonical statement.toObject

def canonicalPredecessors (predecessors : List PredecessorRef) : Py Bytes := do
  let items ← sortByCanonical PredecessorRef.toObject predecessors
  canonical (.arr (items.map PredecessorRef.toObject))

def predecessorRoot (predecessors : List PredecessorRef) : Py String := do
  return sha256Digest (← canonicalPredecessors predecessors)

end Apcc
