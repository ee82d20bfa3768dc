import ConstitutionalSwarm.Data.PyJsonAscii

namespace PyJson

open List

open Json (renderString renderInt isSpace)

def newline (level : ℕ) : List Char :=
  '\n' :: List.replicate (2 * level) ' '

section Write

variable (repr : ℚ → String)

mutual

def renderIndented (level : ℕ) : PyValue → List Char
  | .list [] => ['[', ']']
  | .list (v :: vs) =>
    '[' :: (newline (level + 1) ++ (renderIndented (level + 1) v ++ renderIndentedElems level vs))
  | .dict [] => ['\x7b', '\x7d']
  | .dict ((k, v) :: fs) =>
    '\x7b' :: (newline (level + 1) ++ (renderString true k ++ ':' :: ' ' ::
      (renderIndented (level + 1) v ++ renderIndentedFields level fs)))
  | .none => render ⟨true, true⟩ repr .none
  | .bool b => render ⟨true, true⟩ repr (.bool b)
  | .int i => render ⟨true, true⟩ repr (.int i)
  | .float f => render ⟨true, true⟩ repr (.float f)
  | .str s => render ⟨true, true⟩ repr (.str s)

def renderIndentedElems (level : ℕ) : List PyValue → List Char
  | [] => newline level ++ [']']
  | v :: vs =>
    ',' :: (newline (level + 1) ++ (renderIndented (level + 1) v ++ renderIndentedElems level vs))

def renderIndentedFields (level : ℕ) : List (String × PyValue) → List Char
  | [] => newline level ++ ['\x7d']
  | (k, v) :: fs =>
    ',' :: (newline (level + 1) ++ (renderString true k ++ ':' :: ' ' ::
      (renderIndented (level + 1) v ++ renderIndentedFields level fs)))

end

end Write

theorem spaces_newline (level : ℕ) : Spaces (newline level) := by
  simp [Spaces, newline, isSpace]

section RoundTrip

variable {r : Reading} {repr : ℚ → String}

mutual

theorem spells_renderIndented (h : r.Reads repr) (level : ℕ) (v : PyValue)
    (hv : WellFormed r.constants v) : Spells r.value (renderIndented repr level v) v := by
  match v with
  | .none | .bool _ | .int _ | .float _ | .str _ =>
    rw [renderIndented]
    exact spells_render _ h _ hv
  | .list [] | .dict [] =>
    have hempty := spells_render ⟨true, true⟩ h _ hv
    rw [render] at hempty
    rw [renderIndented]
    exact hempty
  | .list (v :: vs) =>
    rw [renderIndented]
    exact (spells_renderIndentedElems h level vs hv.2 (spells_renderIndented h _ v hv.1)).list
      (spaces_newline _)
  | .dict ((k, v) :: fs) =>
    rw [renderIndented]
    exact (spells_renderIndentedFields h level fs hv.2.2 k
      (spells_renderIndented h _ v hv.2.1)).dict (spaces_newline _) hv.1

theorem spells_renderIndentedElems (h : r.Reads repr) (level : ℕ) (vs : List PyValue)
    (hvs : WellFormedElems r.constants vs) {cs : List Char} {v : PyValue} (hv : Spells r.value cs v)
    : Spells r.elems (cs ++ renderIndentedElems repr level vs) (v :: vs) := by
  match vs with
  | [] =>
    rw [renderIndentedElems]
    exact hv.last (spaces_newline _)
  | w :: vs =>
    rw [renderIndentedElems]
    exact hv.cons (spaces_newline _)
      (spells_renderIndentedElems h level vs hvs.2 (spells_renderIndented h _ w hvs.1))

theorem spells_renderIndentedFields (h : r.Reads repr) (level : ℕ) (fs : List (String × PyValue))
    (hfs : WellFormedFields r.constants fs) (k : String) {cs : List Char} {v : PyValue}
    (hv : Spells r.value cs v)
    : Spells r.fields (renderString true k ++ ':' :: ' ' ::
        (cs ++ renderIndentedFields repr level fs)) ((k, v) :: fs) := by
  match fs with
  | [] =>
    rw [renderIndentedFields]
    exact hv.lastField true k (spaces_gap ⟨true, true⟩) (spaces_newline _)
  | (l, w) :: fs =>
    rw [renderIndentedFields]
    exact hv.consField true k (spaces_gap ⟨true, true⟩) (spaces_newline _)
      (spells_renderIndentedFields h level fs hfs.2 l (spells_renderIndented h _ w hfs.1))

end

theorem loads_renderIndented (h : r.Reads repr) {v : PyValue} (hv : WellFormed r.constants v)
    : r.loads (String.ofList (renderIndented repr 0 v ++ ['\n'])) = some v := by
  have hspells := spells_renderIndented h 0 v hv
  have hvalue := hspells.read_of_le (show _ ≤ (renderIndented repr 0 v ++ ['\n']).length + 1 by
    simp only [length_append]; omega) (@stops_cons '\n' [] (.inl rfl))
  have hskip := hspells.skip spaces_nil ['\n']
  rw [Reading.loads, ← String.length_toList, String.toList_ofList]
  erw [hskip, hvalue]
  rfl

end RoundTrip

def PrintableLine (c : Char) : Prop :=
  Printable c ∨ c = '\n'

theorem printableLine_newline (level : ℕ) : ∀ c ∈ newline level, PrintableLine c := by
  refine forall_mem_cons.mpr ⟨.inr rfl, ?_⟩
  intro c hc
  rw [eq_of_mem_replicate hc]
  exact .inl (by decide)

section Characters

variable {repr : ℚ → String}

mutual

theorem printableLine_renderIndented (hrepr : Literals repr) (level : ℕ) (v : PyValue)
    (hv : WellFormed constants v) : ∀ c ∈ renderIndented repr level v, PrintableLine c := by
  match v with
  | .none | .bool _ | .int _ | .float _ | .str _ =>
    rw [renderIndented]
    exact fun c hc => .inl (plain_render rfl hrepr _ hv c hc)
  | .list [] =>
    rw [renderIndented]
    exact fun c hc => .inl (by revert c; decide)
  | .list (v :: vs) =>
    simp only [renderIndented, forall_mem_cons, forall_mem_append]
    exact ⟨.inl (by decide), printableLine_newline _, printableLine_renderIndented hrepr _ v hv.1,
      printableLine_renderIndentedElems hrepr level vs hv.2⟩
  | .dict [] =>
    rw [renderIndented]
    exact fun c hc => .inl (by revert c; decide)
  | .dict ((k, v) :: fs) =>
    simp only [renderIndented, forall_mem_cons, forall_mem_append]
    exact ⟨.inl (by decide), printableLine_newline _,
      fun c hc => .inl (plain_renderString k c hc), .inl (by decide), .inl (by decide),
      printableLine_renderIndented hrepr _ v hv.2.1,
      printableLine_renderIndentedFields hrepr level fs hv.2.2⟩

theorem printableLine_renderIndentedElems (hrepr : Literals repr) (level : ℕ)
    (vs : List PyValue) (hvs : WellFormedElems constants vs)
    : ∀ c ∈ renderIndentedElems repr level vs, PrintableLine c := by
  match vs with
  | [] =>
    simp only [renderIndentedElems, forall_mem_append, forall_mem_singleton]
    exact ⟨printableLine_newline level, .inl (by decide)⟩
  | v :: vs =>
    simp only [renderIndentedElems, forall_mem_cons, forall_mem_append]
    exact ⟨.inl (by decide), printableLine_newline _, printableLine_renderIndented hrepr _ v hvs.1,
      printableLine_renderIndentedElems hrepr level vs hvs.2⟩

theorem printableLine_renderIndentedFields (hrepr : Literals repr) (level : ℕ)
    (fs : List (String × PyValue)) (hfs : WellFormedFields constants fs)
    : ∀ c ∈ renderIndentedFields repr level fs, PrintableLine c := by
  match fs with
  | [] =>
    simp only [renderIndentedFields, forall_mem_append, forall_mem_singleton]
    exact ⟨printableLine_newline level, .inl (by decide)⟩
  | (k, v) :: fs =>
    simp only [renderIndentedFields, forall_mem_cons, forall_mem_append]
    exact ⟨.inl (by decide), printableLine_newline _,
      fun c hc => .inl (plain_renderString k c hc), .inl (by decide), .inl (by decide),
      printableLine_renderIndented hrepr _ v hfs.1,
      printableLine_renderIndentedFields hrepr level fs hfs.2⟩

end

end Characters

end PyJson
