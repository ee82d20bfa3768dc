import ConstitutionalSwarm.Data.Base64Standard
import ConstitutionalSwarm.Data.PyJsonIndent
import ConstitutionalSwarm.Handoff.Audit

namespace Handoff

open Raising
open PyValue (Dict)

def bundleSchemaVersion : ℕ := 2

def bundleSigDomain : String :=
  "acgs.governed-handoff.bundle-attestation.v2"

/-- `Ed25519PrivateKey`: what a key signs is verified by its public key. -/
class PrivateKeys [Apcc.Platform] where
  PrivateKey : Type
  publicBytes : PrivateKey → Bytes
  sign : PrivateKey → Bytes → Bytes
  length_sign (key : PrivateKey) (message : Bytes) : (sign key message).length = 64
  verify_sign (key : PrivateKey) (message : Bytes)
    : Apcc.Platform.ed25519Verify (publicBytes key) (sign key message) message = true

def requireObjects : ℕ → List PyValue → Py (List Dict)
  | _, [] => .ok []
  | index, .dict event :: rest => do
    let events ← requireObjects (index + 1) rest
    return event :: events
  | index, _ :: _ => .error (.valueError s!"audit event {index} must be an object")

variable (args : BundleArguments) (eventType : String) (events : List Dict)

def isOfType (event : Dict) : Bool :=
  (Dict.get event "event_type").asText? = some eventType

def objectPayload (event : Dict) : Py Dict :=
  match Dict.get event "payload" with
  | .dict payload => .ok payload
  | _ => .error (.valueError (eventType ++ " payload must be an object"))

def requiredLatestPayload (eventType : String) : Py Dict :=
  match events.reverse.find? (isOfType eventType) with
  | some event => objectPayload eventType event
  | none => .error (.valueError ("missing " ++ eventType ++ " audit event"))

def mappingPayloads (eventType : String) : Py (List PyValue) := do
  let payloads ← (events.filter (isOfType eventType)).mapM (objectPayload eventType)
  return payloads.map .dict

def bundleSummaryFields : List String :=
  ["constitution_hash", "constitutional_version", "workflow_hash", "task_metadata",
    "role_assignments", "policy_decisions", "tool_events", "file_changes", "tests_run",
    "final_state"]

def derivedBundleSummary (events : List PyValue) : Py Dict := do
  let events ← requireObjects 0 events
  let runMetadata ← requiredLatestPayload events "run_metadata"
  let taskMetadata ← requiredLatestPayload events "task_metadata"
  let roleAssignments ← requiredLatestPayload events "role_assignments"
  let policyDecisions ← mappingPayloads events "policy_decision"
  let toolEvents ← mappingPayloads events "tool_event"
  let fileChanges ← mappingPayloads events "file_change"
  let testsRun ← mappingPayloads events "test_run"
  let finalState ← requiredLatestPayload events "final_state"
  return [("constitution_hash", Dict.get runMetadata "constitution_hash"),
    ("constitutional_version", Dict.get runMetadata "constitutional_version"),
    ("workflow_hash", Dict.get runMetadata "workflow_hash"),
    ("task_metadata", .dict taskMetadata), ("role_assignments", .dict roleAssignments),
    ("policy_decisions", .list policyDecisions), ("tool_events", .list toolEvents),
    ("file_changes", .list fileChanges), ("tests_run", .list testsRun),
    ("final_state", .dict finalState)]

section Bundle

variable [Apcc.Platform] [Interpreter]

variable (bundle : Dict)

def bundleAttestationPreimage : Bytes :=
  (canonicalJson (.dict [("domain", .str bundleSigDomain),
    ("payload", .dict (bundle.filter fun field => field.1 ≠ "signature"))])).encodeUTF8

structure BundleSigner [PrivateKeys] where
  keyId : String
  privateKey : PrivateKeys.PrivateKey

def withoutLine (event : Dict) : Dict :=
  event.filter fun field => field.1 ≠ "_line"

/-- The arguments of `_build_bundle_from_snapshot` beside the signer and the events. -/
structure BundleArguments where
  auditPath : String
  constitutionHash : String
  workflowHash : String
  constitutionalVersion : String

def BundleArguments.expectedMetadata : List (String × String) :=
  [("constitution_hash", args.constitutionHash),
    ("constitutional_version", args.constitutionalVersion), ("workflow_hash", args.workflowHash)]

def bundleFields (chainHash : String) (summary : Dict) (events : List Dict) : Dict :=
  ("schema_version", .int bundleSchemaVersion) :: ("audit_path", .str args.auditPath) ::
    (summary ++ [("chain_hash", .str chainHash),
      ("audit_events", .list (events.map fun event => .dict (withoutLine event)))])

def unsignedBundle : Py Dict := do
  let chainHash ← replayHashes (events.map .dict)
  let summary ← derivedBundleSummary (events.map .dict)
  args.expectedMetadata.forM fun (field, expected) =>
    raiseIf ((Dict.get summary field).asText? ≠ some expected)
      (.valueError (field ++ " does not match signed run_metadata audit evidence"))
  return bundleFields args chainHash summary events

variable [PrivateKeys]

def signatureBlock (signer : BundleSigner) (bundle : Dict) : Dict :=
  [("alg", .str "ed25519"), ("domain", .str bundleSigDomain), ("key_id", .str signer.keyId),
    ("public_key", .str (Hex.encode (PrivateKeys.publicBytes signer.privateKey))),
    ("sig", .str (Base64.b64encode
      (PrivateKeys.sign signer.privateKey (bundleAttestationPreimage bundle))))]

def buildBundleFromSnapshot (signer : Option BundleSigner) (events : List Dict) : Py Dict := do
  let bundle ← unsignedBundle args events
  match signer with
  | some signer => return bundle ++ [("signature", .dict (signatureBlock signer bundle))]
  | none => return bundle

def bundleBytes : Bytes :=
  (String.ofList (PyJson.renderIndented Interpreter.floatRepr 0 (PyJson.sortKeys (.dict bundle)) ++
    ['\n'])).encodeUTF8

inductive SignatureStatus where
  | unsigned
  | unsupportedSchema
  | invalid
  | noTrustAnchor
  | untrustedKey
  | valid
  deriving DecidableEq

def SignatureStatus.text : SignatureStatus → String
  | .unsigned => "unsigned"
  | .unsupportedSchema => "unsupported_schema"
  | .invalid => "invalid"
  | .noTrustAnchor => "no_trust_anchor"
  | .untrustedKey => "untrusted_key"
  | .valid => "valid"

abbrev TrustedKeys := Option (List (String × String))

def verifiesWith (publicHex : String) (publicKey sig : String) (preimage : Bytes) : Bool :=
  match Hex.decode publicKey, Hex.decode publicHex, Base64.b64decode sig with
  | some embedded, some trusted, some signature =>
    embedded = trusted && Apcc.Platform.ed25519Verify trusted signature preimage
  | _, _, _ => false

def verifyBundleSignature (trusted : TrustedKeys) : SignatureStatus :=
  match Dict.get bundle "signature" with
  | .dict block =>
    if !(Dict.get block "sig").truthy then .unsigned
    else if !(Dict.get bundle "schema_version").eqInt bundleSchemaVersion then .unsupportedSchema
    else if (Dict.get block "alg").asText? ≠ some "ed25519" ∨
        (Dict.get block "domain").asText? ≠ some bundleSigDomain then .invalid
    else match Dict.get block "key_id", Dict.get block "public_key", Dict.get block "sig" with
      | .str keyId, .str publicKey, .str sig =>
        match trusted with
        | none | some [] => .noTrustAnchor
        | some (key :: keys) =>
          match (key :: keys).lookup keyId with
          | none => .untrustedKey
          | some publicHex =>
            if verifiesWith publicHex publicKey sig (bundleAttestationPreimage bundle) then .valid
            else .invalid
      | _, _, _ => .invalid
  | _ => .unsigned

structure Verification where
  ok : Bool
  chainOk : Bool
  summaryOk : Bool
  chainHash : Option String
  expectedChainHash : PyValue
  eventCount : ℕ
  signatureStatus : SignatureStatus
  summaryMismatches : List String
  error : Option String

def failedBundleVerification (error : String) (expectedChainHash : PyValue) (eventCount : ℕ)
    (signatureStatus : SignatureStatus) : Verification :=
  ⟨false, false, false, none, expectedChainHash, eventCount, signatureStatus, [], some error⟩

def exceptionText : PyError → String
  | .valueError message | .typeError message | .attributeError message => message
  | .keyError key => "'" ++ key ++ "'"
  | _ => ""

def verificationError (schema : PyValue) (schemaOk chainOk : Bool) (summaryMismatches : List String)
    (status : SignatureStatus) : Option String :=
  if !schemaOk then
    some ("unsupported bundle schema " ++ Interpreter.repr schema ++
      s!"; expected {bundleSchemaVersion}")
  else if !chainOk then some "bundle chain_hash does not match embedded audit events"
  else if summaryMismatches ≠ [] then
    some ("bundle summary mismatch: " ++ ", ".intercalate summaryMismatches)
  else if status ≠ .valid then
    some ("bundle signature is not trusted and valid: " ++ status.text)
  else none

def verifyObject (trusted : TrustedKeys) : Verification :=
  let status := verifyBundleSignature bundle trusted
  let expected := Dict.get bundle "chain_hash"
  match Dict.get bundle "audit_events" with
  | .list events =>
    match (do
      let chainHash ← replayHashes events
      let summary ← derivedBundleSummary events
      return (chainHash, summary) : Py (String × Dict)) with
    | .error error =>
      failedBundleVerification (exceptionText error) expected events.length status
    | .ok (chainHash, summary) =>
      let chainOk := expected.asText? = some chainHash
      let summaryMismatches := bundleSummaryFields.filter fun field =>
        !PyValue.pyEq (Dict.get bundle field) (Dict.get summary field)
      let schemaOk := (Dict.get bundle "schema_version").eqInt bundleSchemaVersion
      { ok := schemaOk && chainOk && summaryMismatches.isEmpty && status = .valid
        chainOk, summaryOk := summaryMismatches.isEmpty, chainHash := some chainHash
        expectedChainHash := expected, eventCount := events.length, signatureStatus := status
        summaryMismatches
        error := verificationError (Dict.get bundle "schema_version") schemaOk chainOk
          summaryMismatches status }
  | _ => failedBundleVerification "audit_events must be a list" expected 0 status

def verifyBundle (file : Option Bytes) (trusted : TrustedKeys) : Py Verification :=
  match file with
  | none => .ok (failedBundleVerification "invalid bundle: no such file" .none 0 .invalid)
  | some bytes =>
    match bytes.decodeUTF8 with
    | none => .error (.valueError "invalid UTF-8")
    | some text =>
      match JsonText.reading.loads (String.ofList (Lines.universal text.toList)) with
      | none => .ok (failedBundleVerification "invalid bundle: malformed JSON" .none 0 .invalid)
      | some (.dict bundle) => .ok (verifyObject bundle trusted)
      | some _ => .ok (failedBundleVerification "bundle must be an object" .none 0 .invalid)

end Bundle

end Handoff
