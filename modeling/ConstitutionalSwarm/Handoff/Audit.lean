import ConstitutionalSwarm.Apcc.Crypto
import ConstitutionalSwarm.Data.Hex
import ConstitutionalSwarm.Data.Lines
import ConstitutionalSwarm.Data.PyEqual
import ConstitutionalSwarm.Data.PyJsonSorted
import ConstitutionalSwarm.JsonText

namespace Handoff

open Raising
open PyValue (Dict)

def zeroHash : String :=
  String.ofList (List.replicate 64 '0')

variable [Apcc.Platform] [Interpreter]

def canonicalJson (value : PyValue) : String :=
  PyJson.dumps ⟨false, false⟩ Interpreter.floatRepr (PyJson.sortKeys value)

def sha256Text (value : String) : String :=
  Hex.encode (Apcc.Platform.sha256 value.encodeUTF8)

structure AuditLogger where
  taskId : String
  previousHash : String := zeroHash
  eventIndex : ℕ := 0
  file : Option Bytes := some []

/-- The arguments of `emit`, with the time of the clock. -/
structure Emission where
  role : String
  eventType : String
  payload : Dict
  now : ℚ
  wellFormed : PyJson.WellFormed false (.dict payload)
  double : PyFloat.IsDouble now

namespace AuditLogger

variable (logger : AuditLogger)

variable (e : Emission)

def base : Dict :=
  [("event_index", .int logger.eventIndex), ("timestamp", .float (.finite e.now)),
    ("task_id", .str logger.taskId), ("role", .str e.role), ("event_type", .str e.eventType),
    ("payload", .dict e.payload), ("prev_hash", .str logger.previousHash)]

def eventHash : String :=
  sha256Text (canonicalJson (.dict (logger.base e)))

def event : Dict :=
  logger.base e ++ [("event_hash", .str (logger.eventHash e))]

def emit : Py (Dict × AuditLogger) :=
  match logger.file with
  | none => .error (.valueError "audit logger is closed")
  | some file =>
    -- `canonical_json` raises on an index that has too many digits
    if PyInt.fits logger.eventIndex then
      .ok (logger.event e,
        { logger with
          file := some (file ++ (canonicalJson (.dict (logger.event e)) ++ "\n").encodeUTF8),
          previousHash := logger.eventHash e, eventIndex := logger.eventIndex + 1 })
    else .error (.valueError "Exceeds the limit (4300 digits) for integer string conversion")

def emitAll : AuditLogger → List Emission → Py (List Dict × AuditLogger)
  | logger, [] => .ok ([], logger)
  | logger, e :: es => do
    let (event, logger) ← logger.emit e
    let (events, logger) ← emitAll logger es
    return (event :: events, logger)

end AuditLogger

def parseLines : ℕ → List (List Char) → Py (List Dict)
  | _, [] => .ok []
  | lineNo, line :: rest =>
    if PyInt.strip line = [] then parseLines (lineNo + 1) rest
    else match JsonText.reading.loads (String.ofList line) with
      | some (.dict event) => do
        let events ← parseLines (lineNo + 1) rest
        return Assoc.set "_line" (.int lineNo) event :: events
      | some (.list _) => .error (.typeError "list indices must be integers or slices, not str")
      | some value => .error (.typeError
          ("'" ++ value.typeName ++ "' object does not support item assignment"))
      | none => .error (.valueError "malformed JSON")

def parseAuditBytes (payload : Bytes) : Py (List Dict) :=
  match payload.decodeUTF8 with
  | some text => parseLines 1 (Lines.splitlines text.toList)
  | none => .error (.valueError "invalid UTF-8")

def AuditLogger.readEvents (logger : AuditLogger) : Py (List Dict) :=
  match logger.file with
  | none => .error (.valueError "audit logger is closed")
  | some file => parseAuditBytes file

def noAttribute (value : PyValue) : PyError :=
  .attributeError ("'" ++ value.typeName ++ "' object has no attribute 'get'")

def hashedFields (event : Dict) : Dict :=
  event.filter fun field => field.1 ≠ "event_hash" ∧ field.1 ≠ "_line"

def replayFrom : ℕ → String → List PyValue → Py String
  | _, previous, [] => .ok previous
  | index, previous, .dict event :: rest => do
    raiseIf (!(Dict.get event "event_index").eqInt index)
      (.valueError ("audit event index mismatch at line " ++
        ((event.lookup "_line").getD (.int (index + 1))).text))
    raiseIf ((Dict.get event "prev_hash").asText? ≠ some previous)
      (.valueError s!"audit prev_hash mismatch at event {index}")
    let expectedHash := sha256Text (canonicalJson (.dict (hashedFields event)))
    raiseIf ((Dict.get event "event_hash").asText? ≠ some expectedHash)
      (.valueError s!"audit event_hash mismatch at event {index}")
    replayFrom (index + 1) expectedHash rest
  | _, _, value :: _ => .error (noAttribute value)

def replayHashes (events : List PyValue) : Py String :=
  replayFrom 0 zeroHash events

end Handoff
