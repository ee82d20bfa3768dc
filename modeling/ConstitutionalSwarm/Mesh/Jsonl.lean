import ConstitutionalSwarm.Data.Lines
import ConstitutionalSwarm.JsonText
import ConstitutionalSwarm.Mesh.Persistence

namespace Mesh.Jsonl

open Raising
open PyValue (Dict)

structure File where
  bytes : Bytes
  stamp : ℕ

abbrev Signature := Option ℕ × ℕ

/-- `_JsonlAssignmentIndex`. -/
structure Index where
  assignmentIds : List String
  signature : Signature

structure Store where
  file : Option File
  index : Option Index

variable [Interpreter]

def payloadText (payload : Dict) : List Char :=
  PyJson.render ⟨true, false⟩ Interpreter.floatRepr (.dict payload)

def recordFromValue : PyValue → Py SettlementRecord
  | .dict payload => recordFromPayload payload
  | value => .error (.attributeError ("'" ++ value.typeName ++ "' object has no attribute 'get'"))

def jsonDecodeError : PyError :=
  .valueError "malformed JSON"

def loadLines : List (List Char) → Py (List SettlementRecord × Option (List Char))
  | [] => .ok ([], none)
  | rawLine :: rest =>
    if PyInt.strip rawLine = [] then loadLines rest
    else match JsonText.reading.loads (String.ofList (PyInt.strip rawLine)) with
      | some payload => do
        let record ← recordFromValue payload
        let (records, cut) ← loadLines rest
        return (record :: records, cut)
      | none =>
        if rest = [] ∧ rawLine.getLast? ≠ some '\n' then .ok ([], some rawLine)
        else .error jsonDecodeError

variable (store : Store) (stamp : ℕ)

namespace Store

def empty : Store :=
  ⟨none, none⟩

def fileSignature : Signature :=
  match store.file with
  | none => (none, 0)
  | some file => (some file.stamp, file.bytes.length)

def lines (file : File) : Py (List (List Char)) :=
  match file.bytes.decodeUTF8 with
  | some text => .ok (Lines.readlines (Lines.universal text.toList))
  | none => .error (.valueError "invalid UTF-8")

def truncate (file : File) : Option (List Char) → Store
  | none => store
  | some rawLine =>
    { store with
      file := some ⟨file.bytes.take (file.bytes.length - (String.ofList rawLine).encodeUTF8.length),
        stamp⟩ }

def loadAll : Py (List SettlementRecord × Store) :=
  match store.file with
  | none => .ok ([], store)
  | some file => do
    let lines ← lines file
    let (records, cut) ← loadLines lines
    return (records, store.truncate stamp file cut)

def rememberIndex (assignmentIds : List String) : Store :=
  { store with index := some ⟨assignmentIds, store.fileSignature⟩ }

def knownAssignmentIds : Py (List String × Store) :=
  match store.index.filter (·.signature = store.fileSignature) with
  | some index => .ok (index.assignmentIds, store)
  | none => do
    let (records, store) ← store.loadAll stamp
    let ids := (records.map SettlementStore.recordId).filter (· ≠ "")
    return (ids, store.rememberIndex ids)

def write (bytes : Bytes) (stamp : ℕ) : Store :=
  { store with file := some ⟨(store.file.map (·.bytes)).getD [] ++ bytes, stamp⟩ }

def lineBytes (payload : Dict) : Bytes :=
  (String.ofList (payloadText payload ++ ['\n'])).encodeUTF8

def prepare (record : SettlementRecord) (stamp : ℕ)
    : Py (String × List String × Dict × Store) := do
  let assignmentId ← itemText record.assignment "assignment_id"
  let (known, store) ← store.knownAssignmentIds stamp
  raiseIf (assignmentId ∈ known)
    (.mesh .duplicateSettlement ("Settlement " ++ assignmentId ++ " already exists"))
  let payload ← payloadFromRecord record
  return (assignmentId, known, payload, store)

def append (record : SettlementRecord) (truncated written : ℕ) : Py Store := do
  let (assignmentId, known, payload, store) ← store.prepare record truncated
  return (store.write (lineBytes payload) written).rememberIndex (known ++ [assignmentId])

def crash (record : SettlementRecord) (truncated written : ℕ) (front : Bytes)
    : Py Store := do
  let (_, _, _, store) ← store.prepare record truncated
  return store.write front written

end Store

end Mesh.Jsonl
