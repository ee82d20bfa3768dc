import ConstitutionalSwarm.Apcc.Store.Validate
import ConstitutionalSwarm.Data.Hex
import ConstitutionalSwarm.Data.Worklist
import ConstitutionalSwarm.Gcb.Schema
import ConstitutionalSwarm.Interpreter

namespace Gcb

open Raising
open Apcc (insert update)
open PyValue (Dict)

class Platform extends Apcc.Platform, Interpreter where
  /-- `base64.b64decode(value, validate=True)`, or the text of its `ValueError`. -/
  b64decode (value : String) : Except String Bytes

variable [Platform]

structure Boundary where
  config : Apcc.AuthorityConfig
  verifierPolicyId : String
  /-- `_policy_signer_public_key(signer, version)`. -/
  policySigner : Option (String → Py Bytes)

def canonicalDigest (value : PyValue) : String :=
  Hex.encode (Apcc.Platform.sha256 (value.dumps true Interpreter.floatRepr).encodeUTF8)

def bindInt (value : Int) : Py Int :=
  if -2 ^ 63 ≤ value ∧ value < 2 ^ 63 then .ok value
  else .error (.overflowError "Python int too large to convert to SQLite INTEGER")

structure ControlCommand where
  storeId : String
  commandId : String
  action : ControlAction
  workflowId : String
  expectedControlVersion : Int
  issuedAt : Int
  expiresAt : Int
  parameters : Dict
  adminKeyId : String
  signature : String

variable (b : Boundary) (s : Store) (command : ControlCommand)

namespace ControlCommand

def unsignedDict : Dict :=
  [("store_id", .str command.storeId), ("command_id", .str command.commandId),
    ("action", .str command.action.value), ("workflow_id", .str command.workflowId),
    ("expected_control_version", .int command.expectedControlVersion),
    ("issued_at", .int command.issuedAt), ("expires_at", .int command.expiresAt),
    ("parameters", .dict command.parameters), ("admin_key_id", .str command.adminKeyId)]

def canonicalBody : Bytes :=
  ((PyValue.dict command.unsignedDict).dumps true Interpreter.floatRepr).encodeUTF8

def canonicalBytes : Bytes :=
  "ACGS-SWARM-GCB-CONTROL-V1".encodeUTF8 ++ [0] ++ command.canonicalBody

def material : String :=
  (PyValue.dict (command.unsignedDict ++ [("signature", .str command.signature)])).dumps true
    Interpreter.floatRepr

def verifies (publicKey : Bytes) : Bool :=
  match Platform.b64decode command.signature with
  | .ok signature => Apcc.Platform.ed25519Verify publicKey signature command.canonicalBytes
  | .error _ => false

end ControlCommand

structure ControlDecision where
  commandId : String
  outcome : CommitOutcome
  reason : String
  controlVersion : Int
  result : Option Int
  deriving DecidableEq

def validateControlCommand (storeSeal : SealRow) (now : Int)
    : Option String :=
  if command.storeId ≠ storeSeal.storeId then some "control_store_mismatch"
  else if command.adminKeyId ≠ storeSeal.adminKeyId then some "control_admin_key_mismatch"
  else if command.expectedControlVersion ≠ storeSeal.controlVersion then
    some "stale_control_version"
  else if command.issuedAt > now + 30 ∨ command.expiresAt < now then
    some "control_command_expired_or_not_yet_valid"
  else if command.expiresAt ≤ command.issuedAt then some "invalid_control_command_lifetime"
  else if !command.verifies storeSeal.adminPublicKey then some "invalid_control_signature"
  else none

def childrenMap (rows : List NodeRow) : Py (List (String × List String)) := do
  let known (nodeId : String) := rows.any (·.nodeId = nodeId)
  raiseIf (rows.any fun row => !row.predecessors.all known)
    (.bypassDenied "workflow_topology_integrity_failure")
  return rows.map fun row =>
    (row.nodeId, (rows.filter (·.predecessors.contains row.nodeId)).map (·.nodeId))

def descendants (children : List (String × List String)) (seeds : List String)
    : Py (List String) := do
  raiseIf (seeds.any fun seed => (children.lookup seed).isNone)
    (.bypassDenied "workflow_topology_integrity_failure")
  let reached ← Worklist.run children (fun next => .ok ((), next)) [] seeds
  return reached.map Prod.fst

def taintDescendants (t : Tables) (workflowId agentId : String) : Py Tables := do
  let rows := t.nodesOf workflowId
  let claimed := (rows.filter fun row =>
    row.claimedBy = some agentId && row.status ≠ .governedCommitted).map (·.nodeId)
  if claimed = [] then return t
  else
    let tainted ← descendants (← childrenMap rows) claimed
    let nodes ← update t.nodes
      (fun row => row.workflowId = workflowId && tainted.contains row.nodeId)
      fun row => { row with
        tainted := true
        status := if row.status = .governedCommitted then row.status else .revoked
        version := row.version + 1 }
    return { t with nodes }

section Actions

variable (b : Boundary) (t : Tables) (workflowId : String) (parameters : Dict)

def Boundary.registryScope : String × String :=
  match b.config.registryTrust with
  | binding :: _ => (binding.scope.getD 0 "", binding.scope.getD 1 "")
  | [] => ("", "")

def nodeMap : Py (List (String × List String)) := do
  let items ← (← parameters.item "nodes").items
  items.foldlM (fun nodes item => do
    return Assoc.set item.1.text ((← item.2.elements).map PyValue.text) nodes) []

def policyDigest (policyVersion : String) : String :=
  if (parameters.get "policy_digest").truthy then (parameters.get "policy_digest").text
  else canonicalDigest (.dict [("policy_version", .str policyVersion)])

def canonicalInput (digest : String) : String :=
  if digest.length = 64 then ((Hex.decode digest).map Base64.encode).getD digest else digest

def inputDigest (nodeId : String) (given : PyValue) : String :=
  canonicalInput (if given.truthy then given.text
      else Apcc.sha256Digest (workflowId ++ "\x00" ++ nodeId).encodeUTF8)

def mapping (key : String) : Py (List (PyValue × PyValue)) :=
  ((parameters.lookup key).getD (.dict [])).items

def insertNode (capabilities digests : List (PyValue × PyValue)) (t : Tables)
    (node : String × List String) : Py Tables := do
  let required ← ((PyValue.getItem capabilities node.1).getD (.list [])).elements
  let nodes ← insert t.nodes
    { workflowId, nodeId := node.1, status := if node.2 = [] then .ready else .blocked,
      version := 0,
      inputDigest := inputDigest workflowId node.1 ((PyValue.getItem digests node.1).getD .none),
      requiredCapabilities := ← PyValue.sorted required,
      predecessors := PyValue.sortTexts node.2, attemptId := none, claimedBy := none,
      artifactId := none, resultDigest := none, commitId := none, receiptDigest := none,
      tainted := false }
  return { t with nodes }

def createWorkflow : Py (Option Int × Tables) := do
  let nodes ← nodeMap parameters
  raiseIf (nodes.length > 1000) (.bypassDenied "node_status_batch_too_large")
  raiseIf (workflowId = "" || nodes.isEmpty || !(parameters.get "policy_version").truthy)
    (.bypassDenied "invalid_workflow_definition")
  raiseIf (t.workflows.any (·.workflowId = workflowId))
    (.bypassDenied "authoritative workflow already exists")
  raiseIf (nodes.any fun node => node.2.any fun dep => (nodes.lookup dep).isNone)
    (.bypassDenied "unknown_predecessor")
  let policyVersion := (parameters.get "policy_version").text
  let verifier := parameters.get "verifier_policy_id"
  let verifierPolicyId := if verifier.truthy then verifier.text else b.verifierPolicyId
  raiseIf (verifierPolicyId ≠ b.verifierPolicyId) (.bypassDenied "unsealed_verifier_policy")
  let generation ← ((parameters.lookup "generation").getD (.int 1)).toInt
  let authorityEpoch ← (PyValue.str b.registryScope.2).toInt
  let workflows ← insert t.workflows
    { workflowId, generation := ← bindInt generation, policyVersion,
      policyDigest := policyDigest parameters policyVersion, policyEpoch := 1, verifierPolicyId,
      authorityRoot := b.registryScope.1, authorityEpoch := ← bindInt authorityEpoch,
      revocationGeneration := 1, stateVersion := 0 }
  let capabilities ← mapping parameters "required_capabilities"
  let digests ← mapping parameters "input_digests"
  let t ← nodes.foldlM (insertNode workflowId capabilities digests) { t with workflows }
  return (some generation, t)

def updateWorkflow (f : WorkflowRow → WorkflowRow) : Py Tables := do
  let workflows ← update t.workflows (·.workflowId = workflowId) f
  return { t with workflows }

def registerAgent : Py (Option Int × Tables) := do
  let workflow ← t.workflow workflowId
  let rawKey ← match Platform.b64decode (← parameters.item "public_key").text with
    | .ok raw => pure raw
    | .error message => throw (.valueError message)
  raiseIf (rawKey.length ≠ 32) (.valueError "An Ed25519 public key is 32 bytes long")
  match b.config.producerTrust.find? (·.publicKey = rawKey) with
  | none => throw (.bypassDenied "untrusted_producer_key")
  | some binding =>
    let authorityEpoch ← (PyValue.str b.registryScope.2).toInt
    let agentId := (← parameters.item "agent_id").text
    let given ← ((parameters.lookup "capabilities").getD (.list [])).elements
    let agents ← insert t.agents
      { workflowId, agentId, publicKey := rawKey, keyId := binding.keyId,
        capabilities := ← PyValue.sortedSet given, authorityEpoch := ← bindInt authorityEpoch,
        revocationEpoch := 1, revoked := false }
    let stateVersion ← bindInt (workflow.stateVersion + 1)
    let t ← updateWorkflow { t with agents } workflowId fun row =>
      { row with authorityEpoch, authorityRoot := b.registryScope.1, stateVersion }
    return (some stateVersion, t)

def apccPolicyBinding (policyVersion : String) (policyEpoch : Int) : Py Apcc.TrustBinding :=
  let untrusted := Apcc.PyError.bypassDenied "untrusted_policy_binding"
  let scope := [b.verifierPolicyId, policyVersion, toString policyEpoch]
  match b.config.policyTrust.find? (·.scope = scope), b.policySigner with
  | some binding, some publicKey => do
    raiseIf ((← publicKey policyVersion) ≠ binding.publicKey) untrusted
    return binding
  | _, _ => throw untrusted

def updatePolicy : Py (Option Int × Tables) := do
  let workflow ← t.workflow workflowId
  let policyVersion := (← parameters.item "policy_version").text
  let policyEpoch := workflow.policyEpoch + 1
  let _ ← apccPolicyBinding b policyVersion policyEpoch
  let policyEpoch ← bindInt policyEpoch
  let t ← updateWorkflow t workflowId fun row =>
    { row with policyVersion, policyDigest := policyDigest parameters policyVersion, policyEpoch }
  return (some policyEpoch, t)

def revocationRequest (scope : Apcc.RevocationScope)
    (workflowId targetId nextGeneration reason : String) : Py Apcc.RevocationRequest :=
  if workflowId = "" ∨ targetId = "" then
    .error (.valueError "revocation workflow and target cannot be empty")
  else if hplain : Apcc.isPlainId workflowId = true then
    if scope ≠ .certificate ∧ Apcc.isPlainId targetId = false then
      .error (.valueError "identifier must match the ASCII plain-ID grammar")
    else if htarget : scope.accepts workflowId targetId = true then
      .ok ⟨scope, workflowId, targetId, nextGeneration, reason, hplain, htarget⟩
    else if scope = .certificate then
      .error (.valueError "certificate revocation target must be a SHA-256 digest")
    else .error (.valueError "workflow revocation target must equal workflow_id")
  else .error (.valueError "identifier must match the ASCII plain-ID grammar")

def revokeAgent : Py (Option Int × Tables) := do
  let _ ← t.workflow workflowId
  let agentId := (← parameters.item "agent_id").text
  let agent ← t.agent workflowId agentId
  let epoch ← bindInt (agent.revocationEpoch + 1)
  let agents ← update t.agents (·.isFor workflowId agentId) fun row =>
    { row with revoked := true, revocationEpoch := epoch }
  let t ← taintDescendants { t with agents } workflowId agentId
  let request ← revocationRequest .actor workflowId agentId (toString epoch)
    "GCB signed actor revocation"
  let (_, apcc) ← Apcc.revoke t.apcc request
  return (some epoch, { t with apcc })

def bumpWorkflowGeneration : Py (Option Int × Tables) := do
  let workflow ← t.workflow workflowId
  let generation ← bindInt (workflow.generation + 1)
  let t ← updateWorkflow t workflowId fun row => { row with generation }
  return (some generation, t)

def revokeRoot : Py (Option Int × Tables) := do
  let workflow ← t.workflow workflowId
  let nodeId := (← parameters.item "node_id").text
  let eventId := (← parameters.item "event_id").text
  let root ← t.node workflowId nodeId
  raiseIf (root.status ≠ .governedCommitted)
    (.bypassDenied "revocation_root_not_governed_committed")
  match (t.apcc.logicalNode? workflowId nodeId).bind (·.certificateDigest) with
  | none => throw (.bypassDenied "canonical_certificate_missing")
  | some certificateDigest =>
    let reason := (← parameters.item "reason").text
    let request ← revocationRequest .certificate workflowId certificateDigest
      (toString (workflow.revocationGeneration + 1)) reason
    let (_, apcc) ← Apcc.revoke t.apcc request
    let generation ← bindInt (workflow.revocationGeneration + 1)
    let revokedRoots ← insert t.revokedRoots ⟨workflowId, nodeId, generation, eventId, reason⟩
    let revocationOutbox ← insert t.revocationOutbox
      ⟨eventId, workflowId, nodeId, generation, false, false⟩
    let t ← updateWorkflow { t with apcc, revokedRoots, revocationOutbox } workflowId fun row =>
      { row with revocationGeneration := generation }
    return (some generation, t)

def fenceNodeForReview : Py (Option Int × Tables) := do
  let nodeId := (← parameters.item "node_id").text
  let nodes ← update t.nodes (·.isFor workflowId nodeId) fun row =>
    { row with version := row.version + 1 }
  raiseIf (!t.nodes.any (·.isFor workflowId nodeId)) (.bypassDenied "unknown_node")
  return (none, { t with nodes })

end Actions

def applyControlAction (t : Tables) (command : ControlCommand)
    : Py (Option Int × Tables) :=
  match command.action with
  | .createWorkflow => createWorkflow b t command.workflowId command.parameters
  | .registerAgent => registerAgent b t command.workflowId command.parameters
  | .updatePolicy => updatePolicy b t command.workflowId command.parameters
  | .revokeAgent => revokeAgent t command.workflowId command.parameters
  | .bumpWorkflowGeneration => bumpWorkflowGeneration t command.workflowId
  | .revokeRoot => revokeRoot t command.workflowId command.parameters
  | .fenceNodeForReview => fenceNodeForReview t command.workflowId command.parameters

def denialReason : PyError → Option String
  | .bypassDenied message => some message
  | .keyError key => some (Interpreter.repr (.str key))
  | .typeError message => some (if message = "" then "TypeError" else message)
  | .valueError message => some (if message = "" then "ValueError" else message)
  | .codecError code => some code.value
  | .mesh .duplicateSettlement message => some message
  | _ => none

def controlRow (outcome : CommitOutcome) (reason : String) (resultingVersion : Int)
    (result : Option Int) : ControlEventRow where
  commandId := command.commandId
  action := command.action
  workflowId := command.workflowId
  expectedControlVersion := command.expectedControlVersion
  resultingControlVersion := resultingVersion
  outcome := outcome
  reason := reason
  resultValue := result
  commandMaterial := command.material

def recordControl (outcome : CommitOutcome) (reason : String) (resultingVersion : Int)
    (result : Option Int) : Py Store := do
  let _ ← bindInt command.expectedControlVersion
  let _ ← result.mapM bindInt
  let controlEvents ← insert s.controlEvents
    (controlRow command outcome reason resultingVersion result)
  return { s with controlEvents }

def securityEvent (eventType : String) (command : ControlCommand) : Store :=
  { s with securityEvents := s.securityEvents ++
      [⟨eventType, command.commandId, command.workflowId, "", command.material⟩] }

def ControlEventRow.decision (row : ControlEventRow) : ControlDecision :=
  ⟨row.commandId, row.outcome, row.reason, row.resultingControlVersion, row.resultValue⟩

def answerRecorded (prior : ControlEventRow)
    : ControlDecision × Store :=
  if prior.commandMaterial ≠ command.material then
    (⟨command.commandId, .denied, "control_idempotency_conflict", prior.resultingControlVersion,
      none⟩, securityEvent s "control_collision_attempt" command)
  else (prior.decision, s)

def denyControl (reason : String)
    : Py (ControlDecision × Store) := do
  let version := s.storeSeal.controlVersion
  let s ← recordControl s command .denied reason version none
  return (⟨command.commandId, .denied, reason, version, none⟩, s)

def transitionControl : Py (ControlDecision × Store) :=
  match applyControlAction b s.tables command with
  | .ok (result, tables) => do
    let version ← bindInt (s.storeSeal.controlVersion + 1)
    let s ← recordControl
      { s with tables, storeSeal := { s.storeSeal with controlVersion := version } } command
      .committed "verified_admin_transition" version result
    return (⟨command.commandId, .committed, "verified_admin_transition", version, result⟩, s)
  | .error e =>
    match denialReason e with
    | some reason => do
      let (decision, s) ← denyControl s command reason
      return (decision, securityEvent s "control_transition_denied" command)
    | none => .error e

def answerControl (now : Int)
    : Py (ControlDecision × Store) :=
  match s.controlEvent? command.commandId with
  | some prior => .ok (answerRecorded s command prior)
  | none =>
    match validateControlCommand command s.storeSeal now with
    | some denial => denyControl s command denial
    | none => transitionControl b s command

def finalize (before after : Apcc.Store) : Py Unit :=
  if after = before then .ok ()
  else (Apcc.validateSemanticIntegrity b.config after).map fun _ => ()

structure Call where
  command : ControlCommand
  now : Int
  available : Bool

def controlTransaction (call : Call) : Py (ControlDecision × Store) := do
  ensure call.available (.operationalError "")
  let answer ← answerControl b s call.command call.now
  finalize b s.tables.apcc answer.2.tables.apcc
  return answer

def applyControlCommand (call : Call)
    : Py (ControlDecision × Store) :=
  match controlTransaction b s call with
  | .ok answer => .ok answer
  | .error e =>
    if e.isSqlError then
      .ok (⟨call.command.commandId, .denied, "persistence_error", -1, none⟩, s)
    else .error e

end Gcb
