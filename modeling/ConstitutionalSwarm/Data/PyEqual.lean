import ConstitutionalSwarm.Data.PyJsonLemmas

namespace PyValue

def number? : PyValue → Option PyFloat
  | .bool b => some (.finite (if b then 1 else 0))
  | .int i => some (.finite i)
  | .float f => some f
  | _ => Option.none

mutual

def pyEq : PyValue → PyValue → Bool
  | .none, .none => true
  | .str s, .str t => s = t
  | .list vs, .list ws => pyEqElems vs ws
  | .dict fs, .dict gs => fs.length = gs.length && pyEqFields fs gs
  | v, w =>
    match v.number?, w.number? with
    | some a, some b => a = b && a ≠ .nan
    | _, _ => false

def pyEqElems : List PyValue → List PyValue → Bool
  | [], [] => true
  | v :: vs, w :: ws => pyEq v w && pyEqElems vs ws
  | _, _ => false

def pyEqFields : List (String × PyValue) → Dict → Bool
  | [], _ => true
  | (k, v) :: fs, gs =>
    (match gs.lookup k with
      | some w => pyEq v w
      | Option.none => false) && pyEqFields fs gs

end

open PyJson (WellFormed WellFormedElems WellFormedFields)

mutual

theorem pyEq_self (v : PyValue) (h : WellFormed false v) : pyEq v v := by
  match v with
  | .none => rfl
  | .bool b => simp [pyEq, number?]
  | .int i => simp [pyEq, number?]
  | .float (.finite q) => simp [pyEq, number?]
  | .float (.inf n) => simp [WellFormed] at h
  | .float .nan => simp [WellFormed] at h
  | .str s => simp [pyEq]
  | .list vs =>
    rw [pyEq]
    exact pyEqElems_self vs h
  | .dict fs =>
    rw [pyEq, pyEqFields_of_subset fs h.2 fs]
    . simp
    . intro f hf
      exact (Assoc.Unique.lookup_eq_some h.1).mpr hf

theorem pyEqElems_self (vs : List PyValue) (h : WellFormedElems false vs)
    : pyEqElems vs vs := by
  match vs with
  | [] => rfl
  | v :: vs => rw [pyEqElems, pyEq_self v h.1, pyEqElems_self vs h.2, Bool.and_self]

theorem pyEqFields_of_subset (fs : List (String × PyValue)) (h : WellFormedFields false fs)
    (gs : Dict) (hlook : ∀ f ∈ fs, gs.lookup f.1 = some f.2) : pyEqFields fs gs := by
  match fs with
  | [] => rfl
  | (k, v) :: fs =>
    obtain ⟨hk, hfs⟩ := List.forall_mem_cons.mp hlook
    rw [pyEqFields, hk]
    simp only
    rw [pyEq_self v h.1, pyEqFields_of_subset fs h.2 gs hfs, Bool.and_self]

end

end PyValue
