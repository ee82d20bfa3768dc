import Mathlib.Data.String.Basic

inductive Json where
  | null
  | bool (b : Bool)
  | int (i : Int)
  | str (s : String)
  | arr (elems : List Json)
  | obj (fields : List (String × Json))
  deriving Inhabited

namespace Json

mutual

def decEq : (a b : Json) → Decidable (a = b)
  | .null, .null => isTrue rfl
  | .bool a, .bool b => decidable_of_iff (a = b) (by simp)
  | .int a, .int b => decidable_of_iff (a = b) (by simp)
  | .str a, .str b => decidable_of_iff (a = b) (by simp)
  | .arr as, .arr bs =>
    match decEqElems as bs with
    | isTrue h => isTrue (by rw [h])
    | isFalse h => isFalse (by simpa using h)
  | .obj as, .obj bs =>
    match decEqFields as bs with
    | isTrue h => isTrue (by rw [h])
    | isFalse h => isFalse (by simpa using h)
  | .null, .bool _ | .null, .int _ | .null, .str _ | .null, .arr _ | .null, .obj _
  | .bool _, .null | .bool _, .int _ | .bool _, .str _ | .bool _, .arr _ | .bool _, .obj _
  | .int _, .null | .int _, .bool _ | .int _, .str _ | .int _, .arr _ | .int _, .obj _
  | .str _, .null | .str _, .bool _ | .str _, .int _ | .str _, .arr _ | .str _, .obj _
  | .arr _, .null | .arr _, .bool _ | .arr _, .int _ | .arr _, .str _ | .arr _, .obj _
  | .obj _, .null | .obj _, .bool _ | .obj _, .int _ | .obj _, .str _ | .obj _, .arr _ =>
    isFalse (by simp)

def decEqElems : (as bs : List Json) → Decidable (as = bs)
  | [], [] => isTrue rfl
  | a :: as, b :: bs =>
    match decEq a b, decEqElems as bs with
    | isTrue h, isTrue hs => isTrue (by rw [h, hs])
    | isFalse h, _ => isFalse (by simp [h])
    | _, isFalse h => isFalse (by simp [h])
  | [], _ :: _ => isFalse (by simp)
  | _ :: _, [] => isFalse (by simp)

def decEqFields : (as bs : List (String × Json)) → Decidable (as = bs)
  | [], [] => isTrue rfl
  | (k, a) :: as, (l, b) :: bs =>
    match decEq a b, decEqFields as bs with
    | isTrue h, isTrue hs => decidable_of_iff (k = l) (by simp [h, hs])
    | isFalse h, _ => isFalse (by simp [h])
    | _, isFalse h => isFalse (by simp [h])
  | [], _ :: _ => isFalse (by simp)
  | _ :: _, [] => isFalse (by simp)

end

instance : DecidableEq Json := decEq

def hexQuad (n : Nat) : List Char :=
  [Nat.digitChar (n / 4096 % 16), Nat.digitChar (n / 256 % 16), Nat.digitChar (n / 16 % 16),
    Nat.digitChar (n % 16)]

def highSurrogate (n : Nat) : Nat :=
  0xd800 + (n - 0x10000) / 1024

def lowSurrogate (n : Nat) : Nat :=
  0xdc00 + (n - 0x10000) % 1024

def joinSurrogates (high low : Nat) : Nat :=
  0x10000 + (high - 0xd800) * 1024 + (low - 0xdc00)

def isHighSurrogate (unit : Nat) : Bool :=
  0xd800 ≤ unit && unit < 0xdc00

def isLowSurrogate (unit : Nat) : Bool :=
  0xdc00 ≤ unit && unit < 0xe000

def escapeChar (ensureAscii : Bool) (c : Char) : List Char :=
  if c = '"' then ['\\', '"']
  else if c = '\\' then ['\\', '\\']
  else if c = '\n' then ['\\', 'n']
  else if c = '\r' then ['\\', 'r']
  else if c = '\t' then ['\\', 't']
  else if c = '\x0c' then ['\\', 'f']
  else if c = '\x08' then ['\\', 'b']
  else if c.toNat < 0x20 ∨ (ensureAscii = true ∧ 0x7e < c.toNat) then
    if c.toNat < 0x10000 then
      '\\' :: 'u' :: hexQuad c.toNat
    else
      '\\' :: 'u' :: hexQuad (highSurrogate c.toNat) ++
        '\\' :: 'u' :: hexQuad (lowSurrogate c.toNat)
  else [c]

def renderString (ensureAscii : Bool) (s : String) : List Char :=
  '"' :: s.toList.flatMap (escapeChar ensureAscii) ++ ['"']

def renderInt : Int → List Char
  | .ofNat n => Nat.toDigits 10 n
  | .negSucc n => '-' :: Nat.toDigits 10 (n + 1)

mutual

def render (ensureAscii : Bool) : Json → List Char
  | .null => ['n', 'u', 'l', 'l']
  | .bool true => ['t', 'r', 'u', 'e']
  | .bool false => ['f', 'a', 'l', 's', 'e']
  | .int i => renderInt i
  | .str s => renderString ensureAscii s
  | .arr [] => ['[', ']']
  | .arr (v :: vs) => '[' :: (render ensureAscii v ++ renderElems ensureAscii vs)
  | .obj [] => ['{', '}']
  | .obj ((k, v) :: fs) =>
    '{' :: (renderString ensureAscii k ++ ':' :: (render ensureAscii v ++
      renderFields ensureAscii fs))

def renderElems (ensureAscii : Bool) : List Json → List Char
  | [] => [']']
  | v :: vs => ',' :: (render ensureAscii v ++ renderElems ensureAscii vs)

def renderFields (ensureAscii : Bool) : List (String × Json) → List Char
  | [] => ['}']
  | (k, v) :: fs =>
    ',' :: (renderString ensureAscii k ++ ':' :: (render ensureAscii v ++
      renderFields ensureAscii fs))

end

def dumps (ensureAscii : Bool) (v : Json) : String :=
  String.ofList (render ensureAscii v)

structure Hooks (ε : Type) where
  malformed : ε
  object : List (String × Json) → Except ε Json
  int : Int → Except ε Json
  float : ε
  /-- The answer to one of `NaN`, `Infinity`, `-Infinity`. -/
  constant : ε

def isSpace (c : Char) : Bool :=
  c = ' ' || c = '\t' || c = '\n' || c = '\r'

def skipSpace (cs : List Char) : List Char :=
  cs.dropWhile isSpace

def hexVal (c : Char) : Option Nat :=
  if '0' ≤ c ∧ c ≤ '9' then some (c.toNat - '0'.toNat)
  else if 'a' ≤ c ∧ c ≤ 'f' then some (c.toNat - 'a'.toNat + 10)
  else if 'A' ≤ c ∧ c ≤ 'F' then some (c.toNat - 'A'.toNat + 10)
  else none

def hex4 : List Char → Option (Nat × List Char)
  | a :: b :: c :: d :: rest => do
    let a ← hexVal a
    let b ← hexVal b
    let c ← hexVal c
    let d ← hexVal d
    return (((a * 16 + b) * 16 + c) * 16 + d, rest)
  | _ => none

def unescape : Char → Option Char
  | '"' => some '"'
  | '\\' => some '\\'
  | '/' => some '/'
  | 'b' => some '\x08'
  | 'f' => some '\x0c'
  | 'n' => some '\n'
  | 'r' => some '\r'
  | 't' => some '\t'
  | _ => none

def unicodeEscape (cs : List Char) : Option (Char × List Char) := do
  let (unit, rest) ← hex4 cs
  if isHighSurrogate unit then
    match rest with
    | '\\' :: 'u' :: rest =>
      let (low, rest) ← hex4 rest
      if isLowSurrogate low then return (Char.ofNat (joinSurrogates unit low), rest)
      else none
    | _ => none
  else if isLowSurrogate unit then none
  else return (Char.ofNat unit, rest)

def nextChar : List Char → Option (Char × List Char)
  | [] => none
  | c :: rest =>
    if c = '\\' then
      match rest with
      | [] => none
      | 'u' :: rest => unicodeEscape rest
      | e :: rest => (unescape e).map fun c => (c, rest)
    else if c.toNat < 0x20 then none
    else some (c, rest)

def stringBody : Nat → List Char → Option (List Char × List Char)
  | 0, _ => none
  | n + 1, cs =>
    match cs with
    | '"' :: rest => some ([], rest)
    | cs =>
      match nextChar cs with
      | none => none
      | some (c, rest) => (stringBody n rest).map fun (body, rest) => (c :: body, rest)

def natural : List Char → Option (Nat × List Char)
  | '0' :: rest => some (0, rest)
  | cs =>
    match cs.takeWhile Char.isDigit with
    | [] => none
    | ds => some (Nat.ofDigitChars 10 ds 0, cs.dropWhile Char.isDigit)

def isExponent : List Char → Bool
  | '+' :: d :: _ => d.isDigit
  | '-' :: d :: _ => d.isDigit
  | d :: _ => d.isDigit
  | [] => false

def isFloatTail : List Char → Bool
  | '.' :: d :: _ => d.isDigit
  | 'e' :: rest => isExponent rest
  | 'E' :: rest => isExponent rest
  | _ => false

namespace Hooks

variable {ε : Type} (h : Hooks ε)

def string (cs : List Char) : Except ε (String × List Char) :=
  match stringBody (cs.length + 1) cs with
  | some (body, rest) => .ok (String.ofList body, rest)
  | none => .error h.malformed

def number (negative : Bool) (cs : List Char) : Except ε (Json × List Char) :=
  match natural cs with
  | none => .error h.malformed
  | some (n, rest) =>
    if isFloatTail rest then .error h.float
    else (h.int (if negative then -n else n)).map fun v => (v, rest)

def atom : List Char → Except ε (Json × List Char)
  | 'n' :: 'u' :: 'l' :: 'l' :: rest => .ok (.null, rest)
  | 't' :: 'r' :: 'u' :: 'e' :: rest => .ok (.bool true, rest)
  | 'f' :: 'a' :: 'l' :: 's' :: 'e' :: rest => .ok (.bool false, rest)
  | 'N' :: 'a' :: 'N' :: _ => .error h.constant
  | 'I' :: 'n' :: 'f' :: 'i' :: 'n' :: 'i' :: 't' :: 'y' :: _ => .error h.constant
  | '-' :: 'I' :: 'n' :: 'f' :: 'i' :: 'n' :: 'i' :: 't' :: 'y' :: _ => .error h.constant
  | '-' :: rest => h.number true rest
  | rest => h.number false rest

mutual

def value : Nat → List Char → Except ε (Json × List Char)
  | 0, _ => .error h.malformed
  | _ + 1, '"' :: cs => (h.string cs).map fun (s, rest) => (.str s, rest)
  | n + 1, '[' :: cs =>
    match skipSpace cs with
    | ']' :: rest => .ok (.arr [], rest)
    | cs => (elems n cs).map fun (vs, rest) => (.arr vs, rest)
  | n + 1, '{' :: cs =>
    match skipSpace cs with
    | '}' :: rest => (h.object []).map fun v => (v, rest)
    | cs => do
      let (fs, rest) ← fields n cs
      (h.object fs).map fun v => (v, rest)
  | _ + 1, cs => h.atom cs

def elems : Nat → List Char → Except ε (List Json × List Char)
  | 0, _ => .error h.malformed
  | n + 1, cs => do
    let (v, rest) ← value n cs
    match skipSpace rest with
    | ']' :: rest => return ([v], rest)
    | ',' :: rest =>
      let (vs, rest) ← elems n (skipSpace rest)
      return (v :: vs, rest)
    | _ => .error h.malformed

def fields : Nat → List Char → Except ε (List (String × Json) × List Char)
  | 0, _ => .error h.malformed
  | n + 1, '"' :: cs => do
    let (k, rest) ← h.string cs
    match skipSpace rest with
    | ':' :: rest =>
      let (v, rest) ← value n (skipSpace rest)
      match skipSpace rest with
      | '}' :: rest => return ([(k, v)], rest)
      | ',' :: rest =>
        let (fs, rest) ← fields n (skipSpace rest)
        return ((k, v) :: fs, rest)
      | _ => .error h.malformed
    | _ => .error h.malformed
  | _ + 1, _ => .error h.malformed

end

def loads (s : String) : Except ε Json := do
  let (v, rest) ← h.value (s.length + 1) (skipSpace s.toList)
  match skipSpace rest with
  | [] => return v
  | _ => .error h.malformed

end Hooks

section Dict

variable {α : Type}

def SortedKeys (entries : List (String × α)) : Prop :=
  entries.Pairwise fun a b => a.1 < b.1

def dictSet (key : String) (value : α) : List (String × α) → List (String × α)
  | [] => [(key, value)]
  | (k, v) :: rest =>
    if key < k then (key, value) :: (k, v) :: rest
    else if key = k then (key, value) :: rest
    else (k, v) :: dictSet key value rest

def dict (pairs : List (String × α)) : List (String × α) :=
  pairs.foldl (fun d p => dictSet p.1 p.2 d) []

end Dict

def str? : Json → Option String
  | .str s => some s
  | _ => none

def plainHooks {ε : Type} (malformed : ε) : Hooks ε where
  malformed := malformed
  object pairs := .ok (.obj (dict pairs))
  int i := .ok (.int i)
  float := malformed
  constant := malformed

end Json
