import ConstitutionalSwarm.Data.PyJsonAscii
import ConstitutionalSwarm.Data.PyJsonPrefix
import ConstitutionalSwarm.Interpreter
import Mathlib.Data.Rat.Lemmas

namespace JsonText

def reading [Interpreter] : PyJson.Reading where
  floatOfText := Interpreter.floatOfText
  constants := true
  duplicates := true

inductive LexState where
  | outside
  | inString
  | escaped

/-- Whether no bracket opens more than `limit` levels; a closing one takes the level to `close`. -/
def nestsWithin (close : ℤ → ℤ) (limit : ℤ) : LexState → ℤ → List Char → Bool
  | _, _, [] => true
  | .escaped, depth, _ :: cs => nestsWithin close limit .inString depth cs
  | .inString, depth, c :: cs =>
    if c = '\\' then nestsWithin close limit .escaped depth cs
    else if c = '"' then nestsWithin close limit .outside depth cs
    else nestsWithin close limit .inString depth cs
  | .outside, depth, c :: cs =>
    if c = '"' then nestsWithin close limit .inString depth cs
    else if c = '[' ∨ c = '\x7b' then
      depth + 1 ≤ limit && nestsWithin close limit .outside (depth + 1) cs
    else if c = ']' ∨ c = '\x7d' then nestsWithin close limit .outside (close depth) cs
    else nestsWithin close limit .outside depth cs

/-- `float(repr(x)) == x` for every double, and the spelling is that of a float. -/
class LawfulFloats [Interpreter] : Prop where
  literal : PyJson.Literals Interpreter.floatRepr
  read (q : ℚ) : PyFloat.IsDouble q →
    Interpreter.floatOfText (Interpreter.floatRepr q) = some (.finite q)

theorem reads [Interpreter] [LawfulFloats] (constants : Bool)
    : PyJson.Reading.Reads ⟨Interpreter.floatOfText, constants, true⟩ Interpreter.floatRepr :=
  ⟨LawfulFloats.literal, LawfulFloats.read⟩

end JsonText

namespace JsonText.Sample

def fractionText (q : ℚ) : List Char :=
  Json.renderInt q.num ++ '.' :: Nat.toDigits 10 q.den

def readFraction (text : String) : Option PyFloat := do
  let (sign, cs) := PyJson.splitMinus text.toList
  let (num, rest) ← Json.natural cs
  match rest with
  | '.' :: rest =>
    let (den, _) ← Json.natural rest
    return .finite ((if sign then -(num : ℚ) else num) / den)
  | _ => none

scoped instance interpreter : Interpreter where
  repr _ := ""
  floatRepr q := String.ofList (fractionText q)
  floatOfText := readFraction
  floatOfInt value := some (.finite value)
  items _ := .ok []
  sorted values := .ok values
  sortedSet values := .ok values

theorem literal_fractionText (q : ℚ) : PyJson.FloatLiteral (fractionText q) := by
  obtain ⟨d, ds, hds, hd⟩ := Json.toDigits_cons q.den
  have hdigits : ∀ c ∈ ds, c.isDigit := by
    intro c hc
    exact Nat.isDigit_of_mem_toDigits (by decide) (by decide) (hds ▸ List.mem_cons_of_mem d hc)
  have hfrac : PyJson.IsFraction ('.' :: Nat.toDigits 10 q.den) :=
    .inr ⟨d, ds, hd, hdigits, by rw [hds]⟩
  unfold fractionText
  cases q.num with
  | ofNat n =>
    exact ⟨[], n, _, [], .inl rfl, hfrac, .inl rfl, by simp, by simp [Json.renderInt]⟩
  | negSucc n =>
    exact ⟨['-'], n + 1, _, [], .inr rfl, hfrac, .inl rfl, by simp, by simp [Json.renderInt]⟩

theorem readFraction_fractionText (q : ℚ)
    : readFraction (String.ofList (fractionText q)) = some (.finite q) := by
  have hden : Json.natural (Nat.toDigits 10 q.den) = some (q.den, []) := by
    have h : Json.natural (Nat.toDigits 10 q.den ++ []) = some (q.den, []) :=
      Json.natural_toDigits q.den (by simp)
    rwa [List.append_nil] at h
  have hpoint : ∀ n, Json.natural (Nat.toDigits 10 n ++ '.' :: Nat.toDigits 10 q.den) =
      some (n, '.' :: Nat.toDigits 10 q.den) := fun n => Json.natural_toDigits n (by simp)
  have hq := Rat.num_div_den q
  unfold readFraction fractionText
  rw [String.toList_ofList]
  cases hnum : q.num with
  | ofNat n =>
    rw [hnum] at hq
    simp only [Json.renderInt, PyJson.splitMinus_digits, hpoint, hden, bind, Option.bind_some, pure]
    simpa using hq
  | negSucc n =>
    rw [hnum] at hq
    simp only [Json.renderInt, List.cons_append, PyJson.splitMinus, hpoint, hden, bind,
      Option.bind_some, pure]
    simpa using hq

instance : LawfulFloats where
  literal q _ := by
    rw [show Interpreter.floatRepr q = String.ofList (fractionText q) from rfl,
      String.toList_ofList]
    exact literal_fractionText q
  read q _ := readFraction_fractionText q

end JsonText.Sample
