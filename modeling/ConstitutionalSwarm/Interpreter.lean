import ConstitutionalSwarm.Apcc.Failure
import ConstitutionalSwarm.Data.PyInt
import ConstitutionalSwarm.Data.PyValue

open Raising

class Interpreter where
  /-- `repr(value)`; it is `str(value)` unless the value is a text. -/
  repr (value : PyValue) : String
  /-- `repr(value)` of a finite float. -/
  floatRepr (value : ℚ) : String
  /-- `float(text)`, or nothing where it raises `ValueError`. -/
  floatOfText (text : String) : Option PyFloat
  /-- `float(value)` of an integer, or nothing where it is too large. -/
  floatOfInt (value : Int) : Option PyFloat
  /-- `dict(value).items()` of a value that is no dictionary. -/
  items (value : PyValue) : Py (List (PyValue × PyValue))
  /-- `sorted(values)` of values that are not all texts. -/
  sorted (values : List PyValue) : Py (List PyValue)
  /-- `sorted(set(values))` of values that are not all texts. -/
  sortedSet (values : List PyValue) : Py (List PyValue)

namespace PyValue

def typeName : PyValue → String
  | .none => "NoneType"
  | .bool _ => "bool"
  | .int _ => "int"
  | .float _ => "float"
  | .str _ => "str"
  | .list _ => "list"
  | .dict _ => "dict"

def truthy : PyValue → Bool
  | .none => false
  | .bool b => b
  | .int i => i ≠ 0
  | .float (.finite q) => q ≠ 0
  | .float _ => true
  | .str s => s ≠ ""
  | .list elems => !elems.isEmpty
  | .dict fields => !fields.isEmpty

def elements : PyValue → Py (List PyValue)
  | .list elems => .ok elems
  | .str s => .ok (s.toList.map fun c => .str (String.singleton c))
  | .dict fields => .ok (fields.map fun field => .str field.1)
  | v => .error (.typeError ("'" ++ v.typeName ++ "' object is not iterable"))

def asText? : PyValue → Option String
  | .str s => some s
  | _ => Option.none

section

variable [Interpreter]

def text : PyValue → String
  | .str s => s
  | v => Interpreter.repr v

def toInt : PyValue → Py Int
  | .int i => .ok i
  | .bool b => .ok (if b then 1 else 0)
  | .float (.finite q) => .ok (q.num.tdiv q.den)
  | .float (.inf _) => .error (.overflowError "cannot convert float infinity to integer")
  | .float .nan => .error (.valueError "cannot convert float NaN to integer")
  | .str s =>
    match PyInt.int? s with
    | some i => .ok i
    | Option.none => .error (.valueError
        ("invalid literal for int() with base 10: " ++ Interpreter.repr (.str s)))
  | v => .error (.typeError
      ("int() argument must be a string, a bytes-like object or a real number, not '" ++
        v.typeName ++ "'"))

def items : PyValue → Py (List (PyValue × PyValue))
  | .dict fields => .ok (fields.map fun field => (.str field.1, field.2))
  | v => Interpreter.items v

def sorted (values : List PyValue) : Py (List PyValue) :=
  match values.mapM asText? with
  | some texts => .ok ((sortTexts texts).map .str)
  | Option.none => Interpreter.sorted values

def sortedSet (values : List PyValue) : Py (List PyValue) :=
  match values.mapM asText? with
  | some texts => .ok ((sortTexts texts.dedup).map .str)
  | Option.none => Interpreter.sortedSet values

end

namespace Dict

def item (d : Dict) (key : String) : Py PyValue :=
  match d.lookup key with
  | some v => .ok v
  | Option.none => .error (.keyError key)

def get (d : Dict) (key : String) : PyValue :=
  (d.lookup key).getD .none

end Dict

def getItem (items : List (PyValue × PyValue)) (key : String) : Option PyValue :=
  (items.find? fun item => item.1.asText? = some key).map Prod.snd

end PyValue
