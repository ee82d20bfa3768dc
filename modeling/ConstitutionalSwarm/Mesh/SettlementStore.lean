import ConstitutionalSwarm.Mesh.Receipt

namespace Mesh

open Raising
open PyValue (Dict)

variable [Platform]

def payloadFromRecord (record : SettlementRecord) : Py Dict := do
  let receiptDigest ← normalizeReceiptDigest record.receiptDigest
  return [("assignment", .dict record.assignment), ("result", .dict record.result),
    ("constitutional_hash", record.constitutionalHash),
    ("schema_version", .int record.schemaVersion), ("is_recovered", .bool record.isRecovered),
    ("receipt_digest", optionalText receiptDigest), ("votes", .list (record.votes.map .dict))]

section Reading

variable [Interpreter]

def dictOf : PyValue → Py Dict
  | .dict fields => .ok fields
  | value => do
    let items ← Interpreter.items value
    return items.filterMap fun item => item.1.asText?.map fun key => (key, item.2)

def receiptDigestOf : PyValue → Py (Option String)
  | .none => .ok none
  | .str value => normalizeReceiptDigest (some value)
  | value => .error (.valueError ("receipt_digest must be a 64-character lowercase sha256 hex " ++
      "digest or empty/None, got " ++ Interpreter.repr value))

def votesOf (value : PyValue) : Py (List Dict) :=
  if value.truthy then do
    let elems ← value.elements
    elems.mapM dictOf
  else .ok []

def recordFromPayload (payload : Dict) : Py SettlementRecord := do
  let assignment ← dictOf ((payload.lookup "assignment").getD (.dict []))
  let result ← dictOf ((payload.lookup "result").getD (.dict []))
  let schemaVersion ← ((payload.lookup "schema_version").getD (.int 1)).toInt
  let receiptDigest ← receiptDigestOf (payload.get "receipt_digest")
  let votes ← votesOf (payload.get "votes")
  return {
    assignment, result
    constitutionalHash := (payload.lookup "constitutional_hash").getD (.str "")
    schemaVersion
    isRecovered := getFlag payload "is_recovered"
    receiptDigest, votes }

end Reading

inductive Backend where
  | jsonl
  | sqlite
  | memory
  deriving DecidableEq

def Backend.hasPath : Backend → Bool
  | .jsonl | .sqlite => true
  | .memory => false

structure SettlementStore where
  backend : Backend
  rows : List (String × Dict)
  pending : List (String × Dict)
  receipts : List (String × List GovernanceReceipt)

variable (store : SettlementStore)

namespace SettlementStore

def listed (rows : List (String × Dict)) : List Dict :=
  match store.backend with
  | .sqlite => (rows.mergeSort fun a b => decide (a.1 ≤ b.1)).map Prod.snd
  | .jsonl | .memory => rows.map Prod.snd

variable [Interpreter]

def loadAll : Py (List SettlementRecord) :=
  (store.listed store.rows).mapM recordFromPayload

def recordId (record : SettlementRecord) : String :=
  getText record.assignment "assignment_id" ""

def get (assignmentId : String) : Py (Option SettlementRecord) :=
  match store.backend with
  | .sqlite => (store.rows.lookup assignmentId).mapM recordFromPayload
  | .jsonl | .memory => do
    let records ← store.loadAll
    return records.find? fun record => recordId record = assignmentId

def knownIds : Py (List String) :=
  match store.backend with
  | .sqlite => .ok (store.rows.map Prod.fst)
  | .jsonl | .memory => do
    let records ← store.loadAll
    return (records.map recordId).filter (· ≠ "")

def append (record : SettlementRecord) : Py SettlementStore := do
  let assignmentId ← itemText record.assignment "assignment_id"
  let known ← store.knownIds
  raiseIf (assignmentId ∈ known)
    (.mesh .duplicateSettlement ("Settlement " ++ assignmentId ++ " already exists"))
  let payload ← payloadFromRecord record
  return { store with rows := store.rows ++ [(assignmentId, payload)] }

def markPending (record : SettlementRecord) : Py SettlementStore := do
  let assignmentId ← itemText record.assignment "assignment_id"
  let payload ← payloadFromRecord { record with isRecovered := false }
  return { store with pending := Assoc.set assignmentId payload store.pending }

def clearPending (assignmentId : String) : SettlementStore :=
  { store with pending := Assoc.erase assignmentId store.pending }

def writeReceipt (assignmentId : String) (bundle : List GovernanceReceipt) : SettlementStore :=
  { store with receipts := Assoc.set assignmentId bundle store.receipts }

def hasCommittedReceipt (assignmentId : String) : Py Bool := do
  match ← store.get assignmentId with
  | none => return false
  | some record =>
    let digest ← normalizeReceiptDigest record.receiptDigest
    return digest.isSome

end SettlementStore

end Mesh
