import ConstitutionalSwarm.Data.Base64
import ConstitutionalSwarm.JsonText

namespace StrictJson

open PyJson (dumpable dumpableElems dumpableFields)

variable [Interpreter]

def parseFiniteFloat (token : String) : Option PyFloat :=
  match Interpreter.floatOfText token with
  | some (.finite q) => some (.finite q)
  | _ => none

def reading : PyJson.Reading where
  floatOfText := parseFiniteFloat
  constants := false
  duplicates := false

/-- The value, or nothing where `StrictJSONError` is raised. -/
def loads (maxBytes maxDepth : ℕ) (raw : Bytes) : Option PyValue := do
  guard (0 < maxBytes ∧ raw.length ≤ maxBytes)
  let text ← raw.decodeUTF8
  guard (JsonText.nestsWithin (fun depth => max (depth - 1) 0) maxDepth .outside 0 text.toList)
  reading.loads text

variable {v : PyValue} {cs rest : List Char} {n : ℕ}

theorem dumpable_number (h : reading.number cs = some (v, rest)) : dumpable v = true := by
  unfold PyJson.Reading.number at h
  split at h
  . cases h
  . dsimp only at h
    split at h
    . obtain ⟨hfits, h⟩ := Option.ite_none_right_eq_some.mp h
      obtain ⟨rfl, -⟩ := Prod.mk.inj (Option.some.inj h)
      split
      . simpa [dumpable, PyInt.fits] using hfits
      . exact hfits
    . obtain ⟨f, hf, heq⟩ := Option.map_eq_some_iff.mp h
      obtain ⟨rfl, -⟩ := Prod.mk.inj heq
      simp only [reading, parseFiniteFloat] at hf
      split at hf
      . cases hf
        rfl
      . cases hf

theorem dumpable_atom (h : reading.atom cs = some (v, rest)) : dumpable v = true := by
  unfold PyJson.Reading.atom at h
  split at h
  . cases h
    rfl
  . cases h
    rfl
  . cases h
    rfl
  . cases h
  . cases h
  . cases h
  . exact dumpable_number h

theorem object_eq_some {fs : List (String × PyValue)} (h : reading.object fs = some v)
    : v = .dict fs := by
  unfold PyJson.Reading.object at h
  obtain ⟨hkeys, -⟩ := Option.ite_none_right_eq_some.mp h
  have hnodup := hkeys.resolve_left (by simp [reading])
  have hobject := PyJson.object_of_nodup (r := reading) hnodup
  rw [PyJson.Reading.object, h, Option.some.injEq] at hobject
  exact hobject

mutual

theorem dumpable_value {n : ℕ} {cs rest : List Char} {v : PyValue}
    (h : reading.value n cs = some (v, rest)) : dumpable v = true := by
  unfold PyJson.Reading.value at h
  split at h
  . cases h
  . obtain ⟨_, -, heq⟩ := Option.map_eq_some_iff.mp h
    cases heq
    rfl
  . split at h
    . cases h
      rfl
    . obtain ⟨_, helems, heq⟩ := Option.map_eq_some_iff.mp h
      cases heq
      exact dumpable_elems helems
  . split at h
    . cases h
      rfl
    . obtain ⟨_, hfields, hread⟩ := Option.bind_eq_some_iff.mp h
      obtain ⟨_, hobject, heq⟩ := Option.map_eq_some_iff.mp hread
      cases heq
      rw [object_eq_some hobject]
      exact dumpable_fields hfields
  . exact dumpable_atom h

theorem dumpable_elems {n : ℕ} {cs rest : List Char} {vs : List PyValue}
    (h : reading.elems n cs = some (vs, rest)) : dumpableElems vs = true := by
  unfold PyJson.Reading.elems at h
  split at h
  . cases h
  . obtain ⟨⟨_, _⟩, hvalue, h⟩ := Option.bind_eq_some_iff.mp h
    have hv := dumpable_value hvalue
    dsimp only at h
    split at h
    . cases h
      simpa [dumpableElems] using hv
    . obtain ⟨_, helems, heq⟩ := Option.bind_eq_some_iff.mp h
      cases heq
      simpa [dumpableElems, hv] using dumpable_elems helems
    . cases h

theorem dumpable_fields {n : ℕ} {cs rest : List Char} {fs : List (String × PyValue)}
    (h : reading.fields n cs = some (fs, rest)) : dumpableFields fs = true := by
  unfold PyJson.Reading.fields at h
  split at h
  . cases h
  . obtain ⟨⟨_, _⟩, -, h⟩ := Option.bind_eq_some_iff.mp h
    dsimp only at h
    split at h
    . obtain ⟨⟨_, _⟩, hvalue, h⟩ := Option.bind_eq_some_iff.mp h
      have hv := dumpable_value hvalue
      dsimp only at h
      split at h
      . cases h
        simpa [dumpableFields] using hv
      . obtain ⟨_, hfields, heq⟩ := Option.bind_eq_some_iff.mp h
        cases heq
        simpa [dumpableFields, hv] using dumpable_fields hfields
      . cases h
    . cases h
  . cases h

end

end StrictJson
