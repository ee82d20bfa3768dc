import ConstitutionalSwarm.Data.Json
import Mathlib.Data.Rat.Defs

inductive PyFloat where
  | finite (value : ℚ)
  | inf (negative : Bool)
  | nan
  deriving DecidableEq

namespace PyFloat

/-- The value of a finite double: `m * 2 ^ e` with 53 bits for `m` and `-1074 ≤ e ≤ 971`. -/
def IsDouble (q : ℚ) : Prop :=
  q.den ∣ 2 ^ 1074 ∧ ∃ e ≤ 971, 2 ^ e ∣ q.num.natAbs ∧ q.num.natAbs < 2 ^ (e + 53)

instance (q : ℚ) : Decidable (IsDouble q) :=
  inferInstanceAs (Decidable (_ ∧ _))

theorem isDouble_of_lt {n : Int} (h : n.natAbs < 2 ^ 53) : IsDouble n :=
  ⟨Nat.one_dvd _, 0, by omega, Nat.one_dvd _, h⟩

def isFinite : PyFloat → Bool
  | .finite _ => true
  | .inf _ | .nan => false

def render (repr : ℚ → String) : PyFloat → String
  | .finite value => repr value
  | .inf false => "Infinity"
  | .inf true => "-Infinity"
  | .nan => "NaN"

end PyFloat

inductive PyValue where
  | none
  | bool (b : Bool)
  | int (i : Int)
  | float (f : PyFloat)
  | str (s : String)
  | list (elems : List PyValue)
  | dict (fields : List (String × PyValue))
  deriving Inhabited

namespace PyValue

abbrev Dict := List (String × PyValue)

def sortTexts (texts : List String) : List String :=
  texts.mergeSort fun a b => decide (a ≤ b)

def joinWith (separator : Char) : List (List Char) → List Char
  | [] => []
  | [cs] => cs
  | cs :: rest => cs ++ separator :: joinWith separator rest

def renderField (ensureAscii : Bool) (field : String × List Char) : List Char :=
  Json.renderString ensureAscii field.1 ++ ':' :: field.2

mutual

def render (ensureAscii : Bool) (repr : ℚ → String) : PyValue → List Char
  | .none => ['n', 'u', 'l', 'l']
  | .bool true => ['t', 'r', 'u', 'e']
  | .bool false => ['f', 'a', 'l', 's', 'e']
  | .int i => Json.renderInt i
  | .float f => (f.render repr).toList
  | .str s => Json.renderString ensureAscii s
  | .list elems => '[' :: joinWith ',' (renderElems ensureAscii repr elems) ++ [']']
  | .dict fields =>
    let rendered := (renderFields ensureAscii repr fields).mergeSort fun a b => decide (a.1 ≤ b.1)
    '{' :: joinWith ',' (rendered.map (renderField ensureAscii)) ++ ['}']

def renderElems (ensureAscii : Bool) (repr : ℚ → String) : List PyValue → List (List Char)
  | [] => []
  | v :: vs => render ensureAscii repr v :: renderElems ensureAscii repr vs

def renderFields (ensureAscii : Bool) (repr : ℚ → String)
    : List (String × PyValue) → List (String × List Char)
  | [] => []
  | (k, v) :: fields => (k, render ensureAscii repr v) :: renderFields ensureAscii repr fields

end

def dumps (ensureAscii : Bool) (repr : ℚ → String) (v : PyValue) : String :=
  String.ofList (render ensureAscii repr v)

def eqInt (v : PyValue) (number : Int) : Bool :=
  match v with
  | .int i => i = number
  | .bool b => (if b then 1 else 0) = number
  | .float (.finite q) => q = number
  | _ => false

end PyValue
