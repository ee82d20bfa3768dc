import ConstitutionalSwarm.Apcc.Crypto
import ConstitutionalSwarm.Data.Hex
import ConstitutionalSwarm.JsonText

namespace Merkle

open Raising
open PyValue (Dict)

def maxMetadataDepth : ℕ := 32

def maxMetadataItems : ℕ := 10000

def depthError (maxDepth : ℕ) : PyError :=
  .valueError s!"JSON value exceeds maximum depth {maxDepth}"

def itemsError (maxItems : ℕ) : PyError :=
  .valueError s!"JSON value exceeds maximum item count {maxItems}"

section Freeze

variable (maxDepth maxItems : ℕ)

mutual

def freeze : PyValue → (depth remaining : ℕ) → Py ℕ
  | .none, depth, remaining | .bool _, depth, remaining | .int _, depth, remaining
  | .str _, depth, remaining => do
    raiseIf (maxDepth < depth) (depthError maxDepth)
    return remaining
  | .float f, depth, remaining => do
    raiseIf (maxDepth < depth) (depthError maxDepth)
    raiseIf (!f.isFinite) (.valueError "JSON numbers must be finite")
    return remaining
  | .dict fields, depth, remaining => do
    raiseIf (maxDepth < depth) (depthError maxDepth)
    raiseIf (remaining < fields.length) (itemsError maxItems)
    freezeFields fields (depth + 1) (remaining - fields.length)
  | .list elems, depth, remaining => do
    raiseIf (maxDepth < depth) (depthError maxDepth)
    raiseIf (remaining < elems.length) (itemsError maxItems)
    freezeElems elems (depth + 1) (remaining - elems.length)

def freezeFields : List (String × PyValue) → (depth remaining : ℕ) → Py ℕ
  | [], _, remaining => .ok remaining
  | (_, value) :: fields, depth, remaining => do
    let remaining ← freeze value depth remaining
    freezeFields fields depth remaining

def freezeElems : List PyValue → (depth remaining : ℕ) → Py ℕ
  | [], _, remaining => .ok remaining
  | value :: elems, depth, remaining => do
    let remaining ← freeze value depth remaining
    freezeElems elems depth remaining

end

end Freeze

def normalizeJsonValue (value : PyValue) : Py PyValue := do
  let _ ← freeze maxMetadataDepth maxMetadataItems value 0 maxMetadataItems
  return value

structure JsonObject where
  fields : Dict
  wellFormed : PyJson.WellFormed true (.dict fields)

def JsonObject.empty : JsonObject :=
  ⟨[], by simp [PyJson.WellFormed, PyJson.WellFormedFields]⟩

structure NodeFields where
  cid : String
  agentId : String
  payload : String
  payloadType : String := "artifact"
  parentCids : List String := []
  timestamp : PyFloat
  bodesPassed : Bool := false
  constitutionalHash : String := ""
  metadata : JsonObject := JsonObject.empty

/-- `DAGNode`, with what `__post_init__` has checked. -/
structure DAGNode extends NodeFields where
  nodup : parentCids.Nodup
  normal : normalizeJsonValue (.dict metadata.fields) = .ok (.dict metadata.fields)

variable (fields : NodeFields)

def NodeFields.postInit : Py DAGNode :=
  if hnodup : fields.parentCids.Nodup then
    match hnormal : normalizeJsonValue (.dict fields.metadata.fields) with
    | .ok value =>
      .ok { fields with
        nodup := hnodup
        normal := by
          cases hfreeze : freeze maxMetadataDepth maxMetadataItems (.dict fields.metadata.fields) 0
            maxMetadataItems with
          | ok remaining => simp only [normalizeJsonValue, hfreeze]; rfl
          | error error => rw [normalizeJsonValue, hfreeze] at hnormal; cases hnormal }
    | .error error => .error error
  else .error (.valueError "parent_cids must not contain duplicates")

def NodeFields.toCanonicalDict : Dict :=
  [("agent_id", .str fields.agentId), ("payload", .str fields.payload),
    ("payload_type", .str fields.payloadType),
    ("parent_cids", .list (fields.parentCids.map .str)), ("bodes_passed", .bool fields.bodesPassed),
    ("constitutional_hash", .str fields.constitutionalHash),
    ("metadata", .dict fields.metadata.fields)]

section Cid

variable [Apcc.Platform] [Interpreter]

def canonicalBytes (data : Dict) : Bytes :=
  (PyJson.dumps ⟨true, false⟩ Interpreter.floatRepr (PyJson.sortKeys (.dict data))).encodeUTF8

def sha256Hex (data : Bytes) : String :=
  Hex.encode (Apcc.Platform.sha256 data)

def NodeFields.computeCid : String :=
  sha256Hex (canonicalBytes fields.toCanonicalDict)

def NodeFields.withCid : NodeFields :=
  { fields with cid := fields.computeCid }

def NodeFields.verifyCid : Bool :=
  fields.cid = fields.computeCid

end Cid

end Merkle
