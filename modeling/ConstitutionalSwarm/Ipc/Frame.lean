import ConstitutionalSwarm.Handoff.Audit
import ConstitutionalSwarm.StrictJson

/-!
This module contains the frames between the processes of the authority, canonical JSON of a bounded
size, and the exceptions that their handlers tell apart.
-/

namespace Ipc

structure Raised where
  mro : List String
  message : String
  args : List PyValue

def Raised.isA (e : Raised) (classes : List String) : Bool :=
  e.mro.any classes.contains

def valueError (message : String) : Raised :=
  ⟨["ValueError", "Exception"], message, [.str message]⟩

def frameSizeError : Raised :=
  ⟨["FrameSizeError", "ValueError", "Exception"], "authority frame too large",
    [.str "authority frame too large"]⟩

def frameProtocolError (code : String) : Raised :=
  ⟨["FrameProtocolError", "ValueError", "Exception"], code, [.str code]⟩

variable [Interpreter]

-- `json.dumps` raises `ValueError` for a float out of range and for an integer of too many digits.
def canonicalJson (value : PyValue) : Except Raised Bytes :=
  if PyJson.dumpable value then .ok (Handoff.canonicalJson value).encodeUTF8
  else .error (valueError "value is not JSON compliant")

def sendFrame (maxFrameBytes : ℕ) (value : PyValue) : Except Raised Bytes := do
  let encoded ← canonicalJson value
  if encoded.length > maxFrameBytes then .error frameSizeError else .ok encoded

end Ipc
