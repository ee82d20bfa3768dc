import ConstitutionalSwarm.Data.Assoc
import ConstitutionalSwarm.Data.JsonLemmas
import ConstitutionalSwarm.Data.PyInt
import ConstitutionalSwarm.Data.PyValue
import ConstitutionalSwarm.Data.Smallest

namespace PyJson

-- There are many characters: whether all of a text have a property is decided over the text.
instance (priority := high) decidableForallMem {p : Char → Prop} [DecidablePred p] (cs : List Char)
    : Decidable (∀ c ∈ cs, p c) :=
  cs.decidableBAll p

open Json (renderString renderInt skipSpace stringBody natural)

structure Style where
  ensureAscii : Bool
  spaced : Bool

def Style.gap (style : Style) : List Char :=
  if style.spaced then [' '] else []

section Write

variable (style : Style) (repr : ℚ → String)

mutual

def render : PyValue → List Char
  | .none => ['n', 'u', 'l', 'l']
  | .bool true => ['t', 'r', 'u', 'e']
  | .bool false => ['f', 'a', 'l', 's', 'e']
  | .int i => renderInt i
  | .float f => (f.render repr).toList
  | .str s => renderString style.ensureAscii s
  | .list [] => ['[', ']']
  | .list (v :: vs) => '[' :: (render v ++ renderElems vs)
  | .dict [] => ['\x7b', '\x7d']
  | .dict ((k, v) :: fs) =>
    '\x7b' :: (renderString style.ensureAscii k ++
      ':' :: (style.gap ++ (render v ++ renderFields fs)))

def renderElems : List PyValue → List Char
  | [] => [']']
  | v :: vs => ',' :: (style.gap ++ (render v ++ renderElems vs))

def renderFields : List (String × PyValue) → List Char
  | [] => ['\x7d']
  | (k, v) :: fs =>
    ',' :: (style.gap ++ (renderString style.ensureAscii k ++
      ':' :: (style.gap ++ (render v ++ renderFields fs))))

end

def dumps (v : PyValue) : String :=
  String.ofList (render style repr v)

end Write

mutual

/-- Whether `dumps` with `allow_nan=False` raises no `ValueError`. -/
def dumpable : PyValue → Bool
  | .int i => PyInt.fits i
  | .float (.finite _) => true
  | .float _ => false
  | .list vs => dumpableElems vs
  | .dict fs => dumpableFields fs
  | .none | .bool _ | .str _ => true

def dumpableElems : List PyValue → Bool
  | [] => true
  | v :: vs => dumpable v && dumpableElems vs

def dumpableFields : List (String × PyValue) → Bool
  | [] => true
  | (_, v) :: fs => dumpable v && dumpableFields fs

end

mutual

def sortKeys : PyValue → PyValue
  | .list vs => .list (sortKeysElems vs)
  | .dict fs => .dict (Smallest.sortBy Prod.fst (sortKeysFields fs))
  | .none => .none
  | .bool b => .bool b
  | .int i => .int i
  | .float f => .float f
  | .str s => .str s

def sortKeysElems : List PyValue → List PyValue
  | [] => []
  | v :: vs => sortKeys v :: sortKeysElems vs

def sortKeysFields : List (String × PyValue) → List (String × PyValue)
  | [] => []
  | (k, v) :: fs => (k, sortKeys v) :: sortKeysFields fs

end

structure Reading where
  floatOfText : String → Option PyFloat
  constants : Bool
  duplicates : Bool

def skipFraction : List Char → List Char
  | '.' :: d :: cs => if d.isDigit then cs.dropWhile Char.isDigit else '.' :: d :: cs
  | cs => cs

def skipSign : List Char → List Char
  | '+' :: cs => cs
  | '-' :: cs => cs
  | cs => cs

def skipExponent : List Char → List Char
  | [] => []
  | e :: cs =>
    if e = 'e' ∨ e = 'E' then
      match skipSign cs with
      | [] => e :: cs
      | d :: tail => if d.isDigit then tail.dropWhile Char.isDigit else e :: cs
    else e :: cs

def splitMinus : List Char → Bool × List Char
  | '-' :: cs => (true, cs)
  | cs => (false, cs)

namespace Reading

variable (r : Reading)

def constant (f : PyFloat) (rest : List Char) : Option (PyValue × List Char) :=
  if r.constants then some (.float f, rest) else none

def number (cs : List Char) : Option (PyValue × List Char) :=
  match natural (splitMinus cs).2 with
  | none => none
  | some (n, rest) =>
    let tail := skipExponent (skipFraction rest)
    if tail.length = rest.length then
      if PyInt.fits n then some (.int (if (splitMinus cs).1 then -n else n), rest) else none
    else
      (r.floatOfText (String.ofList (cs.take (cs.length - tail.length)))).map
        fun f => (.float f, tail)

def atom : List Char → Option (PyValue × List Char)
  | 'n' :: 'u' :: 'l' :: 'l' :: rest => some (.none, rest)
  | 't' :: 'r' :: 'u' :: 'e' :: rest => some (.bool true, rest)
  | 'f' :: 'a' :: 'l' :: 's' :: 'e' :: rest => some (.bool false, rest)
  | 'N' :: 'a' :: 'N' :: rest => r.constant .nan rest
  | 'I' :: 'n' :: 'f' :: 'i' :: 'n' :: 'i' :: 't' :: 'y' :: rest => r.constant (.inf false) rest
  | '-' :: 'I' :: 'n' :: 'f' :: 'i' :: 'n' :: 'i' :: 't' :: 'y' :: rest =>
    r.constant (.inf true) rest
  | cs => r.number cs

def dictOf (pairs : List (String × PyValue)) : List (String × PyValue) :=
  pairs.foldl (fun d p => Assoc.set p.1 p.2 d) []

def object (pairs : List (String × PyValue)) : Option PyValue :=
  if r.duplicates ∨ (pairs.map Prod.fst).Nodup then some (.dict (dictOf pairs)) else none

mutual

def value : ℕ → List Char → Option (PyValue × List Char)
  | 0, _ => none
  | _ + 1, '"' :: cs =>
    (stringBody (cs.length + 1) cs).map fun (body, rest) => (.str (String.ofList body), rest)
  | n + 1, '[' :: cs =>
    match skipSpace cs with
    | ']' :: rest => some (.list [], rest)
    | cs => (elems n cs).map fun (vs, rest) => (.list vs, rest)
  | n + 1, '\x7b' :: cs =>
    match skipSpace cs with
    | '\x7d' :: rest => some (.dict [], rest)
    | cs => (fields n cs).bind fun (fs, rest) => (r.object fs).map fun v => (v, rest)
  | _ + 1, cs => r.atom cs

def elems : ℕ → List Char → Option (List PyValue × List Char)
  | 0, _ => none
  | n + 1, cs => do
    let (v, rest) ← value n cs
    match skipSpace rest with
    | ']' :: rest => return ([v], rest)
    | ',' :: rest =>
      let (vs, rest) ← elems n (skipSpace rest)
      return (v :: vs, rest)
    | _ => none

def fields : ℕ → List Char → Option (List (String × PyValue) × List Char)
  | 0, _ => none
  | n + 1, '"' :: cs => do
    let (k, rest) ← stringBody (cs.length + 1) cs
    match skipSpace rest with
    | ':' :: rest =>
      let (v, rest) ← value n (skipSpace rest)
      match skipSpace rest with
      | '\x7d' :: rest => return ([(String.ofList k, v)], rest)
      | ',' :: rest =>
        let (fs, rest) ← fields n (skipSpace rest)
        return ((String.ofList k, v) :: fs, rest)
      | _ => none
    | _ => none
  | _ + 1, _ => none

end

def loads (s : String) : Option PyValue := do
  let (v, rest) ← r.value (s.length + 1) (skipSpace s.toList)
  match skipSpace rest with
  | [] => return v
  | _ => none

end Reading

end PyJson
