import ConstitutionalSwarm.Merkle.Ancestry

namespace Gossip

open Raising
open Merkle (DAGNode NodeFields JsonObject normalizeJsonValue)
open PyValue (Dict)

def maxMetadataBytes : ℕ := 65536
def maxBatchBytes : ℕ := 4 * 1024 * 1024
def maxBatchNodes : ℕ := 1000
def maxJsonDepth : ℕ := 32
def maxParentCids : ℕ := 4096
def maxFrontierCids : ℕ := 256
def maxFetchCids : ℕ := 1024
def maxProtocolRounds : ℕ := 256
def maxFrontierPages : ℕ := maxProtocolRounds * 4
def maxSessionFrames : ℕ := maxProtocolRounds * 8
def maxAncestryScan : ℕ := 100000
def maxFieldBytes : ℕ := 1 * 1024 * 1024
def maxSessionNodes : ℕ := 100000
def maxSessionBytes : ℕ := 32 * 1024 * 1024
def protocolVersion : ℕ := 1

def reject {α : Type} (message : String) : Py α :=
  .error (.valueError message)

def errorText : PyError → String
  | .valueError message => message
  | _ => ""

def isCid : PyValue → Bool
  | .str value => value.length = 64 ∧ value.toList.all (· ∈ "0123456789abcdef".toList)
  | _ => false

def utf8Size (value : String) : ℕ :=
  value.encodeUTF8.length

def requireText (value : PyValue) (fieldName : String) (maxBytes : ℕ) : Py String :=
  match value with
  | .str text => do
    raiseIf (maxBytes < utf8Size text) (.valueError s!"{fieldName} exceeds {maxBytes} bytes")
    return text
  | _ => reject (fieldName ++ " must be a string")

def getOr (data : Dict) (key : String) (default : PyValue) : PyValue :=
  (data.lookup key).getD default

section Interpreter

variable [Interpreter]

def reprTexts (texts : List String) : String :=
  Interpreter.repr (.list (texts.mergeSort.map .str))

def requireFields (value : Dict) (required optional : List String)
    (context : String) : Py Unit := do
  let missing := required.filter fun key => key ∉ value.map Prod.fst
  raiseIf (missing ≠ [])
    (.valueError (context ++ " missing required fields: " ++ reprTexts missing))
  let unexpected := (value.map Prod.fst).filter fun key => key ∉ required ∧ key ∉ optional
  raiseIf (unexpected ≠ [])
    (.valueError (context ++ " has unexpected fields: " ++ reprTexts unexpected))

def validatedCids (value : PyValue) (fieldName : String) (limit : ℕ) : Py (List String) :=
  match value with
  | .list elems => do
    raiseIf (limit < elems.length)
      (.valueError s!"{fieldName} must be an array with at most {limit} CIDs")
    raiseIf (elems.any (fun e => !isCid e) ∨ ¬(elems.filterMap (·.asText?)).Nodup)
      (.valueError (fieldName ++ " contains invalid or duplicate CIDs"))
    return elems.filterMap (·.asText?)
  | _ => reject s!"{fieldName} must be an array with at most {limit} CIDs"

def jsonObject (fields : Dict) : Py JsonObject :=
  if h : PyJson.WellFormed true (.dict fields) then .ok ⟨fields, h⟩
  else .error (.typeError "the keys of a dictionary are distinct")

def metadataSize (metadata : Dict) : Py ℕ := do
  raiseIf (¬PyJson.WellFormed false (.dict metadata))
    (.valueError "metadata must be valid JSON: Out of range float values are not JSON compliant")
  return utf8Size
    (PyJson.dumps ⟨true, false⟩ Interpreter.floatRepr (PyJson.sortKeys (.dict metadata)))

def wireParents : PyValue → Py (List String)
  | .list elems => do
    raiseIf (maxParentCids < elems.length)
      (.valueError s!"parent_cids exceeds {maxParentCids} entries")
    raiseIf (elems.any fun e => !isCid e)
      (.valueError "parent_cids must contain lowercase SHA-256 CIDs")
    raiseIf (¬(elems.filterMap (·.asText?)).Nodup)
      (.valueError "parent_cids must not contain duplicates")
    return elems.filterMap (·.asText?)
  | _ => reject "parent_cids must be an array"

def wireToNode (now : PyFloat) : PyValue → Py DAGNode
  | .dict data => do
    requireFields data ["cid", "agent_id", "payload"]
      ["payload_type", "parent_cids", "bodes_passed", "constitutional_hash", "metadata"]
      "gossip node"
    let rawMetadata ← match getOr data "metadata" (.dict []) with
      | .dict fields => jsonObject fields
      | _ => reject "metadata must be an object"
    let size ← metadataSize rawMetadata.fields
    raiseIf (maxMetadataBytes < size)
      (.valueError s!"Gossip node metadata exceeds {maxMetadataBytes} bytes ({size} bytes)")
    let cid ← requireText (getOr data "cid" .none) "cid" 256
    raiseIf (!isCid (.str cid)) (.valueError "cid must be a lowercase SHA-256 CID")
    let agentId ← requireText (getOr data "agent_id" .none) "agent_id" 1024
    let payload ← requireText (getOr data "payload" .none) "payload" maxFieldBytes
    let payloadType ← requireText (getOr data "payload_type" (.str "artifact")) "payload_type" 256
    let constitutionalHash ←
      requireText (getOr data "constitutional_hash" (.str "")) "constitutional_hash" 1024
    let parentCids ← wireParents (getOr data "parent_cids" (.list []))
    let bodesPassed ← match getOr data "bodes_passed" (.bool false) with
      | .bool b => pure b
      | _ => reject "bodes_passed must be a boolean"
    let _ ← normalizeJsonValue (.dict rawMetadata.fields)
    let fields : NodeFields :=
      { cid, agentId, payload, payloadType, parentCids, timestamp := now, bodesPassed,
        constitutionalHash, metadata := rawMetadata }
    fields.postInit
  | _ => reject "gossip node must be an object"

def validateJsonDepth (message : String) : Py Unit :=
  raiseIf (!JsonText.nestsWithin (· - 1) maxJsonDepth .outside 0 message.toList)
    (.valueError s!"JSON nesting exceeds {maxJsonDepth}")

def reading : PyJson.Reading where
  floatOfText := Interpreter.floatOfText
  constants := false
  duplicates := true

def parseJsonFrame (message : String) : Py PyValue := do
  raiseIf (maxBatchBytes < utf8Size message) (.valueError
      s!"Gossip frame too large: {utf8Size message} bytes (limit {maxBatchBytes})")
  validateJsonDepth message
  match reading.loads message with
  | some value => return value
  | none => reject "Malformed gossip frame: malformed JSON"

def wrapBatchError {α : Type} : Py α → Py α
  | .ok a => .ok a
  | .error error => reject ("Malformed gossip batch: " ++ errorText error)

def decodeBatch (now : PyFloat) (message : String) : Py (List DAGNode) := do
  match ← wrapBatchError (parseJsonFrame message) with
  | .list items => wrapBatchError do
    raiseIf (maxBatchNodes < items.length) (.valueError
        s!"Gossip batch too many nodes: {items.length} (limit {maxBatchNodes})")
    items.mapM (wireToNode now)
  | value => reject ("Expected JSON array, got <class '" ++ value.typeName ++ "'>")

inductive Envelope where
  | batch (nodes : List DAGNode)
  | frontier (cids : List String) (page : ℤ) (final : Bool)
  | fetch (cids : List String) (budget : ℤ)
  | nodes (nodes : List DAGNode)
  | complete (complete : Bool) (nodesReceived : Option ℤ)
  | ack (ok : Bool) (nodesReceived : Option ℤ) (message : Option String)
  | error (message : String)

def isVersion : PyValue → Bool
  | .int i => i = protocolVersion
  | .bool b => b
  | .float (.finite q) => q = protocolVersion
  | _ => false

def requireBool (value : PyValue) (message : String) : Py Bool :=
  match value with
  | .bool b => .ok b
  | _ => reject message

def optionalCount (value : Dict) (limit : ℕ) (message : String) : Py (Option ℤ) :=
  match value.lookup "nodes_received" with
  | none => .ok none
  | some (.int i) => do
    raiseIf (¬(0 ≤ i ∧ i ≤ limit)) (.valueError message)
    return some i
  | some _ => reject message

def decodeObject (now : PyFloat) (value : Dict) : Py Envelope :=
  match getOr value "type" .none with
  | .str "frontier" => do
    requireFields value ["version", "type", "cids", "page", "final"] [] "frontier"
    let cids ← validatedCids (getOr value "cids" .none) "frontier.cids" maxFrontierCids
    let page ← match getOr value "page" .none with
      | .int i => do
        raiseIf (i < 0) (.valueError "frontier.page must be a non-negative integer")
        pure i
      | _ => reject "frontier.page must be a non-negative integer"
    let final ← requireBool (getOr value "final" .none) "frontier.final must be a boolean"
    return .frontier cids page final
  | .str "fetch" => do
    requireFields value ["version", "type", "cids", "budget"] [] "fetch"
    let cids ← validatedCids (getOr value "cids" .none) "fetch.cids" maxFetchCids
    let budget ← match getOr value "budget" .none with
      | .int i => do
        raiseIf (¬(0 ≤ i ∧ i ≤ maxSessionNodes))
          (.valueError s!"fetch.budget must be between 0 and {maxSessionNodes}")
        pure i
      | _ => reject s!"fetch.budget must be between 0 and {maxSessionNodes}"
    return .fetch cids budget
  | .str "nodes" => do
    requireFields value ["version", "type", "nodes"] [] "nodes"
    match getOr value "nodes" .none with
    | .list elems => do
      raiseIf (¬(0 < elems.length ∧ elems.length ≤ maxBatchNodes))
        (.valueError "nodes must be a non-empty bounded array")
      let nodes ← elems.mapM (wireToNode now)
      return .nodes nodes
    | _ => reject "nodes must be a non-empty bounded array"
  | .str "complete" => do
    requireFields value ["version", "type", "complete"] ["nodes_received"] "complete"
    let complete ← requireBool (getOr value "complete" .none) "complete.complete must be a boolean"
    let nodesReceived ← optionalCount value maxSessionNodes
      "complete.nodes_received must be a bounded non-negative integer"
    return .complete complete nodesReceived
  | .str "ack" => do
    requireFields value ["version", "type", "ok"] ["nodes_received", "message"] "ack"
    let ok ← requireBool (getOr value "ok" .none) "ack.ok must be a boolean"
    let nodesReceived ← optionalCount value maxBatchNodes
      "ack.nodes_received must be a bounded non-negative integer"
    let message ← match value.lookup "message" with
      | none => pure none
      | some text => do
        let message ← requireText text "ack.message" 1024
        pure (some message)
    return .ack ok nodesReceived message
  | .str "error" => do
    requireFields value ["version", "type", "message"] [] "error"
    let message ← requireText (getOr value "message" .none) "error.message" 1024
    return .error message
  | .str messageType => reject ("unsupported gossip message type: " ++ messageType)
  | _ => reject "unsupported gossip envelope"

def decodeEnvelope (now : PyFloat) (message : String) : Py Envelope := do
  match ← parseJsonFrame message with
  | .list _ => do
    let nodes ← decodeBatch now message
    return .batch nodes
  | .dict value => do
    raiseIf (!isVersion (getOr value "version" .none)) (.valueError "unsupported gossip envelope")
    decodeObject now value
  | _ => reject "gossip envelope must be an object"

end Interpreter

end Gossip
