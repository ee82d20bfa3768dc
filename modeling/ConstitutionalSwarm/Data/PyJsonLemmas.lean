import ConstitutionalSwarm.Data.PyJson

/-!
This module contains the proof that the reader of Python's JSON inverts the writer, that it does not
read past a bracket that closes a value, and what follows for texts that are cut short or joined.
-/

namespace PyJson

open List

open PyFloat (IsDouble)
open Json (renderString renderInt skipSpace stringBody natural escapeChar isSpace
  skipSpace_cons toDigits_cons ne_of_isDigit renderString_append skipSpace_renderString)

variable (cs : List Char)

def IsFraction : Prop :=
  cs = [] ∨ ∃ d ds, d.isDigit = true ∧ (∀ c ∈ ds, c.isDigit = true) ∧ cs = '.' :: d :: ds

def IsExponent : Prop :=
  cs = [] ∨ ∃ sign d ds, (sign = [] ∨ sign = ['+'] ∨ sign = ['-']) ∧ d.isDigit = true ∧
    (∀ c ∈ ds, c.isDigit = true) ∧ cs = 'e' :: (sign ++ d :: ds)

def FloatLiteral : Prop :=
  ∃ sign n frac exp, (sign = [] ∨ sign = ['-']) ∧ IsFraction frac ∧ IsExponent exp ∧
    frac ++ exp ≠ [] ∧ cs = sign ++ (Nat.toDigits 10 n ++ (frac ++ exp))

section Numbers

variable {frac exp rest : List Char}

def Stops (rest : List Char) : Prop :=
  ∀ c ∈ rest.head?, c.isDigit = false ∧ c ≠ '.' ∧ c ≠ 'e' ∧ c ≠ 'E'

theorem skipExponent_of_stops (h : Stops rest) : skipExponent rest = rest := by
  cases rest with
  | nil => rfl
  | cons c rest =>
    obtain ⟨-, -, he, hE⟩ := h c (by simp)
    simp [skipExponent, he, hE]

theorem skipFraction_of_head {rest : List Char} (h : ∀ c ∈ rest.head?, c ≠ '.')
    : skipFraction rest = rest := by
  unfold skipFraction
  split
  . exact absurd rfl (h '.' (by simp))
  . rfl

theorem skipExponent_append (hexp : IsExponent exp) (h : Stops rest)
    : skipExponent (exp ++ rest) = rest := by
  have hdigit : ∀ c ∈ rest.head?, c.isDigit = false := fun c hc => (h c hc).1
  rcases hexp with rfl | ⟨sign, d, ds, hsign, hd, hds, rfl⟩
  . exact skipExponent_of_stops h
  . have hminus := (ne_of_isDigit hd).2.2.2.2.2.2.2.2.1
    have hplus : d ≠ '+' := by
      rintro rfl
      exact absurd hd (by decide)
    have hskip : skipSign ((sign ++ d :: ds) ++ rest) = d :: (ds ++ rest) := by
      rcases hsign with rfl | rfl | rfl
      . simp only [nil_append, cons_append]
        rw [skipSign]
        . intro cs hcs
          exact hplus (cons.inj hcs).1
        . intro cs hcs
          exact hminus (cons.inj hcs).1
      . rfl
      . rfl
    simp only [cons_append, skipExponent, true_or, if_true, hskip, hd,
      Json.dropWhile_isDigit_append hdigit hds]

theorem skipFraction_append (hfrac : IsFraction frac) (hexp : IsExponent exp) (h : Stops rest)
    : skipFraction (frac ++ (exp ++ rest)) = exp ++ rest := by
  have hhead : ∀ c ∈ (exp ++ rest).head?, c.isDigit = false ∧ c ≠ '.' := by
    rcases hexp with rfl | ⟨sign, d, ds, -, -, -, rfl⟩
    . exact fun c hc => ⟨(h c hc).1, (h c hc).2.1⟩
    . simp
  rcases hfrac with rfl | ⟨d, ds, hd, hds, rfl⟩
  . exact skipFraction_of_head fun c hc => (hhead c hc).2
  . simp only [cons_append, skipFraction, hd, if_true,
      Json.dropWhile_isDigit_append (fun c hc => (hhead c hc).1) hds]

theorem splitMinus_digits (n : ℕ) (rest : List Char)
    : splitMinus (Nat.toDigits 10 n ++ rest) = (false, Nat.toDigits 10 n ++ rest) := by
  obtain ⟨_, _, hds, hd⟩ := toDigits_cons n
  have hminus := (ne_of_isDigit hd).2.2.2.2.2.2.2.2.1
  rw [hds, cons_append, splitMinus]
  intro cs hcs
  exact hminus (cons.inj hcs).1

end Numbers

namespace Reading

variable {r : Reading} {rest : List Char}

theorem number_int {i : Int} (hi : PyInt.fits i) (h : Stops rest)
    : r.number (renderInt i ++ rest) = some (.int i, rest) := by
  have hdigit : ∀ c ∈ rest.head?, c.isDigit = false := fun c hc => (h c hc).1
  have hskip : skipExponent (skipFraction rest) = rest := by
    rw [skipFraction_of_head fun c hc => (h c hc).2.1, skipExponent_of_stops h]
  cases i with
  | ofNat n =>
    simp only [number, renderInt, splitMinus_digits, Json.natural_toDigits n hdigit, hskip, if_true]
    exact if_pos hi
  | negSucc n =>
    simp only [number, renderInt, cons_append, splitMinus, Json.natural_toDigits _ hdigit,
      hskip, if_true]
    exact if_pos hi

theorem number_float {cs : List Char} (hcs : FloatLiteral cs) (h : Stops rest)
    : r.number (cs ++ rest) = (r.floatOfText (String.ofList cs)).map fun f => (.float f, rest) := by
  obtain ⟨sign, n, frac, exp, hsign, hfrac, hexp, hne, rfl⟩ := hcs
  have hdigit : ∀ c ∈ (frac ++ (exp ++ rest)).head?, c.isDigit = false := by
    rcases hfrac with rfl | ⟨d, ds, -, -, rfl⟩
    . rcases hexp with rfl | ⟨sign, d, ds, -, -, -, rfl⟩
      . exact absurd rfl hne
      . simp
    . simp
  have hsplit : (splitMinus (sign ++ (Nat.toDigits 10 n ++ (frac ++ exp)) ++ rest)).2 =
      Nat.toDigits 10 n ++ (frac ++ (exp ++ rest)) := by
    rcases hsign with rfl | rfl
    . rw [nil_append, append_assoc, append_assoc, splitMinus_digits]
    . simp [splitMinus]
  have hlen : rest.length ≠ (frac ++ (exp ++ rest)).length := by
    have hpos := length_pos_iff.mpr hne
    simp only [length_append] at hpos ⊢
    omega
  simp only [number, hsplit, Json.natural_toDigits n hdigit, skipFraction_append hfrac hexp h,
    skipExponent_append hexp h, if_neg hlen]
  rw [length_append, Nat.add_sub_cancel, take_left]

def NumberHead : Prop :=
  ∃ d ds, d.isDigit = true ∧ (cs = d :: ds ∨ cs = '-' :: d :: ds)

theorem numberHead_digits {sign : List Char} (hsign : sign = [] ∨ sign = ['-']) (n : ℕ)
    (rest : List Char) : NumberHead (sign ++ (Nat.toDigits 10 n ++ rest)) := by
  obtain ⟨d, ds, hds, hd⟩ := toDigits_cons n
  rw [hds]
  rcases hsign with rfl | rfl
  . exact ⟨d, ds ++ rest, hd, .inl rfl⟩
  . exact ⟨d, ds ++ rest, hd, .inr rfl⟩

theorem numberHead_renderInt (i : Int) (rest : List Char) : NumberHead (renderInt i ++ rest) := by
  cases i with
  | ofNat n => exact numberHead_digits (.inl rfl) n rest
  | negSucc n => exact numberHead_digits (.inr rfl) (n + 1) rest

theorem numberHead_of_literal {cs : List Char} (h : FloatLiteral cs) (rest : List Char)
    : NumberHead (cs ++ rest) := by
  obtain ⟨_, n, _, _, hsign, -, -, -, rfl⟩ := h
  rw [append_assoc, append_assoc]
  exact numberHead_digits hsign n _

theorem atom_of_numberHead {cs : List Char} (h : NumberHead cs) : r.atom cs = r.number cs := by
  obtain ⟨_, _, hd, rfl | rfl⟩ := h
  . obtain ⟨-, -, -, hn, ht, hf, hN, hI, hminus, -, -⟩ := ne_of_isDigit hd
    rw [atom]
    all_goals (intros; simp_all)
  . obtain ⟨-, -, -, -, -, -, -, hI, -, -, -⟩ := ne_of_isDigit hd
    rw [atom]
    all_goals (intros; simp_all)

theorem value_of_numberHead {cs : List Char} (h : NumberHead cs) (n : ℕ)
    : r.value (n + 1) cs = r.number cs := by
  rw [← atom_of_numberHead h]
  obtain ⟨_, _, hd, rfl | rfl⟩ := h
  . obtain ⟨hquote, hbracket, hbrace, -⟩ := ne_of_isDigit hd
    rw [value]
    all_goals (intros; simp_all)
  . rw [value]
    all_goals (intros; simp_all)

end Reading

def Literals (repr : ℚ → String) : Prop :=
  ∀ q, IsDouble q → FloatLiteral (repr q).toList

structure Reading.Reads (r : Reading) (repr : ℚ → String) : Prop where
  literal : Literals repr
  read : ∀ q, IsDouble q → r.floatOfText (repr q) = some (.finite q)

mutual

def WellFormed (constants : Bool) : PyValue → Prop
  | .int i => PyInt.fits i = true
  | .float (.finite q) => IsDouble q
  | .float (.inf _) | .float .nan => constants = true
  | .list vs => WellFormedElems constants vs
  | .dict fs => (fs.map Prod.fst).Nodup ∧ WellFormedFields constants fs
  | .none | .bool _ | .str _ => True

def WellFormedElems (constants : Bool) : List PyValue → Prop
  | [] => True
  | v :: vs => WellFormed constants v ∧ WellFormedElems constants vs

def WellFormedFields (constants : Bool) : List (String × PyValue) → Prop
  | [] => True
  | (_, v) :: fs => WellFormed constants v ∧ WellFormedFields constants fs

end

mutual

def decideWellFormed (constants : Bool) : (v : PyValue) → Decidable (WellFormed constants v)
  | .none => .isTrue trivial
  | .bool _ => .isTrue trivial
  | .str _ => .isTrue trivial
  | .int i => inferInstanceAs (Decidable (PyInt.fits i = true))
  | .float (.finite q) => inferInstanceAs (Decidable (IsDouble q))
  | .float (.inf _) => inferInstanceAs (Decidable (constants = true))
  | .float .nan => inferInstanceAs (Decidable (constants = true))
  | .list vs => decideWellFormedElems constants vs
  | .dict fs =>
    have := decideWellFormedFields constants fs
    inferInstanceAs (Decidable ((fs.map Prod.fst).Nodup ∧ WellFormedFields constants fs))

def decideWellFormedElems (constants : Bool)
    : (vs : List PyValue) → Decidable (WellFormedElems constants vs)
  | [] => .isTrue trivial
  | v :: vs =>
    have := decideWellFormed constants v
    have := decideWellFormedElems constants vs
    inferInstanceAs (Decidable (WellFormed constants v ∧ WellFormedElems constants vs))

def decideWellFormedFields (constants : Bool)
    : (fs : List (String × PyValue)) → Decidable (WellFormedFields constants fs)
  | [] => .isTrue trivial
  | (_, v) :: fs =>
    have := decideWellFormed constants v
    have := decideWellFormedFields constants fs
    inferInstanceAs (Decidable (WellFormed constants v ∧ WellFormedFields constants fs))

end

instance (constants : Bool) (v : PyValue) : Decidable (WellFormed constants v) :=
  decideWellFormed constants v

section Constants

variable (style : Style) (repr : ℚ → String)

theorem render_nan : render style repr (.float .nan) = ['N', 'a', 'N'] := by
  rw [render, PyFloat.render]
  decide

theorem render_inf
    : render style repr (.float (.inf false)) = ['I', 'n', 'f', 'i', 'n', 'i', 't', 'y'] := by
  rw [render, PyFloat.render]
  decide

theorem render_negInf
    : render style repr (.float (.inf true)) = ['-', 'I', 'n', 'f', 'i', 'n', 'i', 't', 'y'] := by
  rw [render, PyFloat.render]
  decide

end Constants

section RoundTrip

structure Spells {α : Type} (read : ℕ → List Char → Option (α × List Char)) (cs : List Char) (a : α)
    : Prop where
  head : ∃ c tail, cs = c :: tail ∧ isSpace c = false ∧ c ≠ ']' ∧ c ≠ '\x7d'
  read : ∀ n rest, cs.length ≤ n + 1 → Stops rest → read (n + 1) (cs ++ rest) = some (a, rest)

def Spaces (ws : List Char) : Prop :=
  ∀ c ∈ ws, isSpace c = true

theorem spaces_nil : Spaces [] :=
  forall_mem_nil _

theorem spaces_gap (style : Style) : Spaces style.gap := by
  unfold Style.gap
  split <;> simp [Spaces, isSpace]

variable {r : Reading} {α : Type} {read : ℕ → List Char → Option (α × List Char)} {a : α}
  {cs ds ws ws' rest : List Char} {c : Char}

theorem stops_cons (rest : List Char) (h : isSpace c ∨ c = ',' ∨ c = ']' ∨ c = '\x7d')
    : Stops (c :: rest) := by
  intro d hd
  obtain rfl : c = d := by simpa using hd
  rcases h with h | rfl | rfl | rfl
  . simp only [isSpace, Bool.or_eq_true, decide_eq_true_eq] at h
    rcases h with ((rfl | rfl) | rfl) | rfl <;> decide
  . decide
  . decide
  . decide

theorem Spaces.stops (h : Spaces ws) (hc : c = ']' ∨ c = '\x7d') (rest : List Char)
    : Stops (ws ++ c :: rest) := by
  cases ws with
  | nil => exact stops_cons rest (.inr (.inr hc))
  | cons d ws => exact stops_cons _ (.inl (h d mem_cons_self))

theorem Spaces.skip (h : Spaces ws) (hc : isSpace c = false) (cs : List Char)
    : skipSpace (ws ++ c :: cs) = c :: cs := by
  rw [skipSpace, dropWhile_append_of_pos h]
  exact skipSpace_cons cs hc

theorem Spells.read_of_le (h : Spells read cs a) {n : ℕ} (hn : cs.length ≤ n) (hrest : Stops rest)
    : read n (cs ++ rest) = some (a, rest) := by
  obtain ⟨_, _, rfl, -⟩ := h.head
  obtain _ | n := n
  . cases hn
  . exact h.read n rest hn hrest

theorem Spells.skip (h : Spells read cs a) (hws : Spaces ws) (rest : List Char)
    : skipSpace (ws ++ (cs ++ rest)) = cs ++ rest := by
  obtain ⟨_, _, rfl, hspace, -⟩ := h.head
  exact hws.skip hspace _

theorem stringBody_render (ascii : Bool) (s : String) (rest : List Char)
    : stringBody ((s.toList.flatMap (escapeChar ascii) ++ '"' :: rest).length + 1)
        (s.toList.flatMap (escapeChar ascii) ++ '"' :: rest) = some (s.toList, rest) := by
  have hlen := Json.length_le_length_flatMap_escapeChar ascii s.toList
  apply Json.stringBody_flatMap_escapeChar
  simp only [length_append, length_cons]
  omega

theorem object_of_nodup {fs : List (String × PyValue)} (h : (fs.map Prod.fst).Nodup)
    : r.object fs = some (.dict fs) := by
  have hset := Assoc.foldl_set Prod.fst Prod.snd (l := []) (by simpa using h)
  rw [Reading.object, if_pos (.inr h)]
  simpa [Reading.dictOf] using hset

namespace Spells

variable {v : PyValue} {vs : List PyValue} {fs : List (String × PyValue)}

theorem append_head (h : Spells read cs a) (rest : List Char)
    : ∃ c tail, cs ++ rest = c :: tail ∧ isSpace c = false ∧ c ≠ ']' ∧ c ≠ '\x7d' := by
  obtain ⟨c, tail, rfl, hc⟩ := h.head
  exact ⟨c, tail ++ rest, rfl, hc⟩

theorem last (hv : Spells r.value cs v) (hws : Spaces ws)
    : Spells r.elems (cs ++ (ws ++ [']'])) [v] := by
  refine ⟨hv.append_head _, fun n rest hn _ => ?_⟩
  simp only [length_append, length_singleton] at hn
  have hvalue := hv.read_of_le (show cs.length ≤ n by omega) (hws.stops (.inl rfl) rest)
  simp [Reading.elems, hvalue, hws.skip (show isSpace ']' = false by decide)]

theorem cons (hv : Spells r.value cs v) (hws : Spaces ws) (hvs : Spells r.elems ds vs)
    : Spells r.elems (cs ++ ',' :: (ws ++ ds)) (v :: vs) := by
  refine ⟨hv.append_head _, fun n rest hn hrest => ?_⟩
  simp only [length_append, length_cons] at hn
  have hvalue := hv.read_of_le (show cs.length ≤ n by omega)
    (stops_cons (ws ++ (ds ++ rest)) (.inr (.inl rfl)))
  have helems := hvs.read_of_le (show ds.length ≤ n by omega) hrest
  simp [Reading.elems, hvalue, skipSpace_cons _ (show isSpace ',' = false by decide), hvs.skip hws,
    helems]

theorem list (hvs : Spells r.elems cs vs) (hws : Spaces ws)
    : Spells r.value ('[' :: (ws ++ cs)) (.list vs) := by
  refine ⟨⟨_, _, rfl, by decide⟩, fun n rest hn hrest => ?_⟩
  simp only [length_append, length_cons] at hn
  have helems := hvs.read_of_le (show cs.length ≤ n by omega) hrest
  obtain ⟨_, _, hcs, -, hbracket, -⟩ := hvs.append_head rest
  simp only [cons_append, append_assoc, Reading.value, hvs.skip hws]
  rw [hcs] at helems ⊢
  split
  . next heq => exact absurd (cons.inj heq).1 hbracket
  . rw [helems, Option.map_some]

theorem dict (hfs : Spells r.fields cs fs) (hws : Spaces ws) (hnodup : (fs.map Prod.fst).Nodup)
    : Spells r.value ('\x7b' :: (ws ++ cs)) (.dict fs) := by
  refine ⟨⟨_, _, rfl, by decide⟩, fun n rest hn hrest => ?_⟩
  simp only [length_append, length_cons] at hn
  have hflds := hfs.read_of_le (show cs.length ≤ n by omega) hrest
  obtain ⟨_, _, hcs, -, -, hbrace⟩ := hfs.append_head rest
  simp only [cons_append, append_assoc, Reading.value, hfs.skip hws]
  rw [hcs] at hflds ⊢
  split
  . next heq => exact absurd (cons.inj heq).1 hbrace
  . rw [hflds, Option.bind_some, object_of_nodup hnodup, Option.map_some]

theorem lastField (hv : Spells r.value cs v) (ascii : Bool) (k : String) (hws : Spaces ws)
    (hws' : Spaces ws')
    : Spells r.fields (renderString ascii k ++ ':' :: (ws ++ (cs ++ (ws' ++ ['\x7d']))))
      [(k, v)] := by
  refine ⟨⟨_, _, rfl, by decide⟩, fun n rest hn _ => ?_⟩
  simp only [length_append, length_cons] at hn
  have hvalue := hv.read_of_le (show cs.length ≤ n by omega) (hws'.stops (.inr rfl) rest)
  rw [append_assoc, renderString_append, Reading.fields, stringBody_render]
  simp [skipSpace_cons _ (show isSpace ':' = false by decide), hv.skip hws, hvalue,
    hws'.skip (show isSpace '\x7d' = false by decide)]

theorem consField (hv : Spells r.value cs v) (ascii : Bool) (k : String) (hws : Spaces ws)
    (hws' : Spaces ws') (hfs : Spells r.fields ds fs)
    : Spells r.fields (renderString ascii k ++ ':' :: (ws ++ (cs ++ ',' :: (ws' ++ ds))))
        ((k, v) :: fs) := by
  refine ⟨⟨_, _, rfl, by decide⟩, fun n rest hn hrest => ?_⟩
  simp only [length_append, length_cons] at hn
  have hvalue := hv.read_of_le (show cs.length ≤ n by omega)
    (stops_cons (ws' ++ (ds ++ rest)) (.inr (.inl rfl)))
  have hflds := hfs.read_of_le (show ds.length ≤ n by omega) hrest
  rw [append_assoc, renderString_append, Reading.fields, stringBody_render]
  simp [skipSpace_cons _ (show isSpace ':' = false by decide), hv.skip hws, hvalue,
    skipSpace_cons _ (show isSpace ',' = false by decide), hfs.skip hws', hflds]

theorem number (h : ∀ rest, Reading.NumberHead (cs ++ rest))
    (hnumber : ∀ {rest}, Stops rest → r.number (cs ++ rest) = some (v, rest))
    : Spells r.value cs v := by
  refine ⟨?_, fun n rest _ hrest => by rw [Reading.value_of_numberHead (h rest), hnumber hrest]⟩
  obtain ⟨d, ds, hd, hcs | hcs⟩ := h []
  . obtain ⟨-, -, -, -, -, -, -, -, -, hbracket, hspace⟩ := ne_of_isDigit hd
    exact ⟨d, ds, by simpa using hcs, hspace, hbracket, by rintro rfl; exact absurd hd (by decide)⟩
  . exact ⟨'-', d :: ds, by simpa using hcs, by decide⟩

end Spells

variable {repr : ℚ → String} (style : Style)

mutual

theorem spells_render (h : r.Reads repr) (v : PyValue) (hv : WellFormed r.constants v)
    : Spells r.value (render style repr v) v := by
  match v with
  | .none | .bool true | .bool false =>
    rw [render]
    exact ⟨⟨_, _, rfl, by decide⟩, fun _ _ _ _ => by simp [Reading.value, Reading.atom]⟩
  | .int i =>
    rw [render]
    exact .number (Reading.numberHead_renderInt i) (Reading.number_int hv)
  | .float (.finite q) =>
    rw [render, PyFloat.render]
    refine .number (Reading.numberHead_of_literal (h.literal q hv)) fun hrest => ?_
    rw [Reading.number_float (h.literal q hv) hrest, String.ofList_toList, h.read q hv,
      Option.map_some]
  | .float (.inf false) =>
    rw [render_inf]
    exact ⟨⟨_, _, rfl, by decide⟩, fun _ _ _ _ => by
      simp [Reading.value, Reading.atom, Reading.constant, show r.constants = true from hv]⟩
  | .float (.inf true) =>
    rw [render_negInf]
    exact ⟨⟨_, _, rfl, by decide⟩, fun _ _ _ _ => by
      simp [Reading.value, Reading.atom, Reading.constant, show r.constants = true from hv]⟩
  | .float .nan =>
    rw [render_nan]
    exact ⟨⟨_, _, rfl, by decide⟩, fun _ _ _ _ => by
      simp [Reading.value, Reading.atom, Reading.constant, show r.constants = true from hv]⟩
  | .str s =>
    rw [render]
    refine ⟨⟨_, _, rfl, by decide⟩, fun n rest _ _ => ?_⟩
    simp only [renderString_append, Reading.value, stringBody_render, Option.map_some,
      String.ofList_toList]
  | .list [] | .dict [] =>
    rw [render]
    exact ⟨⟨_, _, rfl, by decide⟩, fun _ _ _ _ => by simp [Reading.value, skipSpace, isSpace]⟩
  | .list (v :: vs) =>
    rw [render]
    exact (spells_renderElems h vs hv.2 (spells_render h v hv.1)).list spaces_nil
  | .dict ((k, v) :: fs) =>
    rw [render]
    exact (spells_renderFields h fs hv.2.2 k (spells_render h v hv.2.1)).dict spaces_nil hv.1

theorem spells_renderElems (h : r.Reads repr) (vs : List PyValue)
    (hvs : WellFormedElems r.constants vs) {cs : List Char} {v : PyValue} (hv : Spells r.value cs v)
    : Spells r.elems (cs ++ renderElems style repr vs) (v :: vs) := by
  match vs with
  | [] =>
    rw [renderElems]
    exact hv.last spaces_nil
  | w :: vs =>
    rw [renderElems]
    exact hv.cons (spaces_gap style) (spells_renderElems h vs hvs.2 (spells_render h w hvs.1))

theorem spells_renderFields (h : r.Reads repr) (fs : List (String × PyValue))
    (hfs : WellFormedFields r.constants fs) (k : String) {cs : List Char} {v : PyValue}
    (hv : Spells r.value cs v)
    : Spells r.fields (renderString style.ensureAscii k ++ ':' :: (style.gap ++
        (cs ++ renderFields style repr fs))) ((k, v) :: fs) := by
  match fs with
  | [] =>
    rw [renderFields]
    exact hv.lastField _ k (spaces_gap style) spaces_nil
  | (l, w) :: fs =>
    rw [renderFields]
    exact hv.consField _ k (spaces_gap style) (spaces_gap style)
      (spells_renderFields h fs hfs.2 l (spells_render h w hfs.1))

end

theorem loads_dumps (h : r.Reads repr) (style : Style) {v : PyValue}
    (hv : WellFormed r.constants v) : r.loads (dumps style repr v) = some v := by
  have hspells := spells_render style h v hv
  have hvalue := hspells.read _ [] (Nat.le_succ _) (by simp [Stops])
  have hskip : skipSpace ([] ++ (render style repr v ++ [])) = _ := hspells.skip spaces_nil []
  rw [append_nil] at hvalue hskip
  rw [Reading.loads, dumps, ← String.length_toList, String.toList_ofList]
  erw [hskip, hvalue]
  rfl

end RoundTrip

end PyJson
