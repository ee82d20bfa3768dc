import ConstitutionalSwarm.Data.PyJsonLemmas

namespace PyJson

open List Option

open Json (renderString skipSpace stringBody natural nextChar unicodeEscape hex4 isSpace Terminated)

variable {cs rest more : List Char}

def Ended (rest : List Char) : Prop :=
  ∃ c tail, rest = c :: tail ∧ (isSpace c = true ∨ c = ',' ∨ c = ']' ∨ c = '\x7d')

theorem Ended.stops (h : Ended rest) : Stops rest := by
  obtain ⟨_, tail, rfl, hc⟩ := h
  exact stops_cons tail hc

theorem Ended.ne_nil (h : Ended rest) : rest ≠ [] := by
  obtain ⟨c, tail, rfl, -⟩ := h
  exact cons_ne_nil c tail

theorem Ended.append (h : Ended rest) (more : List Char) : Ended (rest ++ more) := by
  obtain ⟨c, tail, rfl, hc⟩ := h
  exact ⟨c, tail ++ more, rfl, hc⟩

theorem dropWhile_append_of_ne_nil {p : Char → Bool} (h : cs.dropWhile p ≠ [])
    : (cs ++ more).dropWhile p = cs.dropWhile p ++ more := by
  rw [dropWhile_append, if_neg]
  simpa using h

theorem skipSpace_append {c : Char} {tail : List Char} (h : skipSpace cs = c :: tail)
    (more : List Char) : skipSpace (cs ++ more) = c :: (tail ++ more) := by
  unfold skipSpace at h ⊢
  rw [dropWhile_append_of_ne_nil (by simp [h]), h, cons_append]

theorem ended_of_skipSpace {c : Char} {tail : List Char} (h : skipSpace cs = c :: tail)
    (hc : c = ',' ∨ c = ']' ∨ c = '\x7d') : Ended cs := by
  cases cs with
  | nil => cases h
  | cons d cs =>
    refine ⟨d, cs, rfl, ?_⟩
    by_cases hd : isSpace d
    . exact .inl hd
    . rw [Json.skipSpace_cons _ (by simpa using hd)] at h
      exact .inr ((cons.inj h).1 ▸ hc)

theorem hex4_append {n : ℕ} (h : hex4 cs = some (n, rest)) (more : List Char)
    : hex4 (cs ++ more) = some (n, rest ++ more) := by
  unfold hex4 at h
  split at h
  . simp only [hex4, cons_append] at h ⊢
    simp only [bind, bind_eq_some_iff, pure, some.injEq, Prod.mk.injEq] at h ⊢
    obtain ⟨a, ha, b, hb, c, hc, d, hd, hn, hrest⟩ := h
    exact ⟨a, ha, b, hb, c, hc, d, hd, hn, by rw [hrest]⟩
  . cases h

theorem unicodeEscape_append {c : Char} (h : unicodeEscape cs = some (c, rest)) (more : List Char)
    : unicodeEscape (cs ++ more) = some (c, rest ++ more) := by
  simp only [unicodeEscape, bind, bind_eq_some_iff] at h ⊢
  obtain ⟨⟨unit, tail⟩, hunit, h⟩ := h
  refine ⟨(unit, tail ++ more), hex4_append hunit more, ?_⟩
  dsimp only at h ⊢
  split at h
  . next hhigh =>
    rw [if_pos hhigh]
    split at h
    . next tail' =>
      simp only [bind_eq_some_iff] at h
      obtain ⟨⟨low, tail''⟩, hlow, h⟩ := h
      simp only [cons_append, hex4_append hlow more, bind_some]
      dsimp only at h
      split at h
      . next hlow' =>
        simp only [pure, some.injEq, Prod.mk.injEq] at h
        simp only [hlow', if_true, pure, h]
      . cases h
    . cases h
  . next hhigh =>
    rw [if_neg hhigh]
    split at h
    . cases h
    . next hlow =>
      simp only [pure, some.injEq, Prod.mk.injEq] at h
      simp only [hlow, pure, h]
      simp

theorem nextChar_escape {e : Char} (he : e ≠ 'u') (cs : List Char)
    : nextChar ('\\' :: e :: cs) = (Json.unescape e).map fun c => (c, cs) := by
  rw [nextChar, if_pos rfl]
  exact he

theorem nextChar_append {c : Char} (h : nextChar cs = some (c, rest)) (more : List Char)
    : nextChar (cs ++ more) = some (c, rest ++ more) := by
  cases cs with
  | nil => cases h
  | cons d cs =>
    by_cases hescape : d = '\\'
    . subst hescape
      cases cs with
      | nil => cases h
      | cons e cs =>
        by_cases he : e = 'u'
        . subst he
          exact unicodeEscape_append h more
        . rw [nextChar_escape he] at h
          rw [cons_append, cons_append, nextChar_escape he]
          obtain ⟨_, hc', heq⟩ := map_eq_some_iff.mp h
          cases heq
          rw [hc', map_some]
    . simp only [nextChar, cons_append, hescape, if_false] at h ⊢
      split at h
      . cases h
      . next hctrl =>
        cases h
        rw [if_neg hctrl]

theorem stringBody_append {n m : ℕ} {body : List Char} (h : stringBody n cs = some (body, rest))
    (hnm : n ≤ m) (more : List Char) : stringBody m (cs ++ more) = some (body, rest ++ more) := by
  induction n generalizing cs body m with
  | zero => cases h
  | succ n ih =>
    obtain ⟨m, rfl⟩ : ∃ k, m = k + 1 := ⟨m - 1, by omega⟩
    by_cases hquote : ∃ tail, cs = '"' :: tail
    . obtain ⟨tail, rfl⟩ := hquote
      cases h
      rfl
    . have hne : ∀ tail, cs ≠ '"' :: tail := fun tail heq => hquote ⟨tail, heq⟩
      rw [Json.stringBody_of_ne_quote n hne] at h
      split at h
      . cases h
      . next c tail hnext =>
        obtain ⟨⟨body', rest'⟩, hbody, heq⟩ := map_eq_some_iff.mp h
        cases heq
        have hne' : ∀ tail', cs ++ more ≠ '"' :: tail' := by
          intro tail' heq
          cases cs with
          | nil => cases hnext
          | cons d cs => exact hne cs (by rw [(cons.inj heq).1])
        rw [Json.stringBody_of_ne_quote m hne', nextChar_append hnext more]
        simp only [ih hbody (Nat.le_of_succ_le_succ hnm), map_some]

theorem natural_of_ne_zero (h : ∀ tail, cs ≠ '0' :: tail)
    : natural cs = if cs.takeWhile Char.isDigit = [] then none
      else some (Nat.ofDigitChars 10 (cs.takeWhile Char.isDigit) 0, cs.dropWhile Char.isDigit) := by
  unfold natural
  split
  . next tail => exact absurd rfl (h tail)
  . split <;> simp_all

theorem natural_append {n : ℕ} (h : natural cs = some (n, rest)) (hne : rest ≠ [])
    (more : List Char) : natural (cs ++ more) = some (n, rest ++ more) := by
  by_cases hzero : ∃ tail, cs = '0' :: tail
  . obtain ⟨tail, rfl⟩ := hzero
    rw [natural, some.injEq, Prod.mk.injEq] at h
    obtain ⟨rfl, rfl⟩ := h
    rfl
  . have hne0 : ∀ tail, cs ≠ '0' :: tail := fun tail heq => hzero ⟨tail, heq⟩
    rw [natural_of_ne_zero hne0] at h
    split at h
    . cases h
    . next hnil =>
      rw [some.injEq, Prod.mk.injEq] at h
      obtain ⟨rfl, rfl⟩ := h
      have hne0' : ∀ tail, cs ++ more ≠ '0' :: tail := by
        intro tail hcons
        cases cs with
        | nil => exact hnil rfl
        | cons c cs => exact hne0 cs (by rw [(cons.inj hcons).1])
      have hlength : (cs.takeWhile Char.isDigit).length ≠ cs.length := by
        intro hlen
        apply hne
        have happ : cs.takeWhile Char.isDigit ++ cs.dropWhile Char.isDigit = cs :=
          takeWhile_append_dropWhile
        have happ := congrArg length happ
        rw [length_append, hlen] at happ
        exact length_eq_zero_iff.mp (by omega)
      rw [natural_of_ne_zero hne0', takeWhile_append, if_neg hlength, if_neg hnil,
        dropWhile_append_of_ne_nil hne]

theorem skipFraction_append_of_ne {tail : List Char} (h : skipFraction cs = tail)
    (htail : ∀ c ∈ tail.head?, c ≠ '.') (hne : tail ≠ []) (more : List Char)
    : skipFraction (cs ++ more) = tail ++ more := by
  unfold skipFraction at h
  split at h
  . next d cs =>
    split at h
    . next hd =>
      subst h
      simp only [cons_append, skipFraction, hd, if_true]
      exact dropWhile_append_of_ne_nil hne
    . subst h
      exact absurd rfl (htail '.' (by simp))
  . subst h
    apply skipFraction_of_head
    intro c hc
    cases cs with
    | nil => exact absurd rfl hne
    | cons d cs => exact htail c hc

theorem skipExponent_append_of_ne {tail : List Char} (h : skipExponent cs = tail)
    (htail : ∀ c ∈ tail.head?, c ≠ 'e' ∧ c ≠ 'E') (hne : tail ≠ []) (more : List Char)
    : skipExponent (cs ++ more) = tail ++ more := by
  cases cs with
  | nil => exact absurd h.symm hne
  | cons e cs =>
    simp only [skipExponent, cons_append] at h ⊢
    split at h
    . next he =>
      rw [if_pos he]
      split at h
      . subst h
        obtain ⟨h1, h2⟩ := htail e (by simp)
        exact absurd he (by simp [h1, h2])
      . next d tail' hsign =>
        have hsign' : skipSign (cs ++ more) = d :: (tail' ++ more) := by
          unfold skipSign at hsign ⊢
          split at hsign
          . simp only [cons_append, hsign]
          . simp only [cons_append, hsign]
          . next hplus hminus =>
            subst hsign
            rw [cons_append]
            split
            . next heq => exact absurd (by rw [(cons.inj heq).1]) (hplus tail')
            . next heq => exact absurd (by rw [(cons.inj heq).1]) (hminus tail')
            . rfl
        rw [hsign']
        split at h
        . next hd =>
          subst h
          simp only [hd, if_true]
          exact dropWhile_append_of_ne_nil hne
        . subst h
          obtain ⟨h1, h2⟩ := htail e (by simp)
          exact absurd he (by simp [h1, h2])
    . next he =>
      subst h
      rw [if_neg he, cons_append]

theorem splitMinus_append (hne : cs ≠ []) (more : List Char)
    : splitMinus (cs ++ more) = ((splitMinus cs).1, (splitMinus cs).2 ++ more) := by
  unfold splitMinus
  split
  . next tail heq =>
    cases cs with
    | nil => exact absurd rfl hne
    | cons c cs =>
      obtain ⟨rfl, rfl⟩ := cons.inj heq
      rfl
  . next hminus =>
    cases cs with
    | nil => exact absurd rfl hne
    | cons c cs =>
      split
      . next heq =>
        exact absurd (by rw [cons_append, (cons.inj heq).1]) (hminus (cs ++ more))
      . rfl

namespace Reading

variable {r : Reading} {v : PyValue}

theorem number_append (h : r.number cs = some (v, rest)) (hended : Ended rest) (more : List Char)
    : r.number (cs ++ more) = some (v, rest ++ more) := by
  unfold number at h
  split at h
  . cases h
  . next n tail hnatural =>
    have hcs : cs ≠ [] := by
      rintro rfl
      cases hnatural
    dsimp only at h
    split at h
    . next hlen =>
      -- an integer that ends here is one in the longer text, too
      obtain ⟨hfits, h⟩ := ite_none_right_eq_some.mp h
      obtain ⟨rfl, rfl⟩ := Prod.mk.inj (some.inj h)
      have hstops := (hended.append more).stops
      have hskip : skipExponent (skipFraction (tail ++ more)) = tail ++ more := by
        rw [skipFraction_of_head fun c hc => (hstops c hc).2.1, skipExponent_of_stops hstops]
      simp only [number, splitMinus_append hcs, natural_append hnatural hended.ne_nil, hskip,
        if_true, hfits]
    . next hlen =>
      obtain ⟨_, hf, heq⟩ := map_eq_some_iff.mp h
      obtain ⟨rfl, rfl⟩ := Prod.mk.inj heq
      have hstops := hended.stops
      have hexponent := skipExponent_append_of_ne rfl (fun c hc => (hstops c hc).2.2)
        hended.ne_nil more
      have hfraction : skipFraction (tail ++ more) = skipFraction tail ++ more := by
        apply skipFraction_append_of_ne rfl
        . intro c hc hpoint
          subst hpoint
          cases hskip : skipFraction tail with
          | nil => simp [hskip] at hc
          | cons d tail' =>
            obtain rfl : '.' = d := by simpa [hskip, eq_comm] using hc
            rw [hskip] at hstops
            exact absurd rfl (hstops '.' (by simp [skipExponent])).2.1
        . intro hnil
          rw [hnil] at hended
          exact hended.ne_nil rfl
      have hne : tail ≠ [] := by
        rintro rfl
        exact hended.ne_nil rfl
      have hlen' : (skipExponent (skipFraction tail) ++ more).length ≠ (tail ++ more).length := by
        simpa using hlen
      have htake : (cs ++ more).take ((cs ++ more).length -
          (skipExponent (skipFraction tail) ++ more).length) =
          cs.take (cs.length - (skipExponent (skipFraction tail)).length) := by
        rw [length_append, length_append, Nat.add_sub_add_right,
          take_append_of_le_length (Nat.sub_le _ _)]
      simp only [number, splitMinus_append hcs, natural_append hnatural hne, hfraction, hexponent,
        if_neg hlen', htake, hf, map_some]

theorem numberHead_of_number (h : r.number cs = some (v, rest)) : NumberHead cs := by
  have hdigit : ∀ {cs : List Char} {n : ℕ} {rest : List Char}, natural cs = some (n, rest) →
      ∃ d ds, d.isDigit ∧ cs = d :: ds := by
    intro cs n rest h
    by_cases hzero : ∃ tail, cs = '0' :: tail
    . obtain ⟨tail, rfl⟩ := hzero
      exact ⟨'0', tail, by decide, rfl⟩
    . rw [natural_of_ne_zero fun tail heq => hzero ⟨tail, heq⟩] at h
      split at h
      . cases h
      . next hne =>
        cases cs with
        | nil => exact absurd rfl hne
        | cons d ds =>
          refine ⟨d, ds, ?_, rfl⟩
          by_contra hd
          exact hne (by simp [hd])
  unfold number at h
  split at h
  . cases h
  . next n tail hnatural =>
    obtain ⟨d, ds, hd, heq⟩ := hdigit hnatural
    refine ⟨d, ds, hd, ?_⟩
    unfold splitMinus at heq
    split at heq
    . exact .inr (congrArg ('-' :: ·) heq)
    . exact .inl heq

theorem NumberHead.append (h : NumberHead cs) (more : List Char) : NumberHead (cs ++ more) := by
  obtain ⟨d, ds, hd, rfl | rfl⟩ := h
  . exact ⟨d, ds ++ more, hd, .inl rfl⟩
  . exact ⟨d, ds ++ more, hd, .inr rfl⟩

theorem atom_append (h : r.atom cs = some (v, rest)) (hended : Ended rest) (more : List Char)
    : r.atom (cs ++ more) = some (v, rest ++ more) := by
  have hconstant : ∀ {f : PyFloat} {tail : List Char}, r.constant f tail = some (v, rest) →
      r.constant f (tail ++ more) = some (v, rest ++ more) := by
    intro f tail h
    unfold constant at h ⊢
    split at h
    . next hc =>
      cases h
      rw [if_pos hc]
    . cases h
  unfold atom at h
  split at h
  . cases h
    rfl
  . cases h
    rfl
  . cases h
    rfl
  . exact hconstant h
  . exact hconstant h
  . exact hconstant h
  . rw [atom_of_numberHead ((numberHead_of_number h).append more), number_append h hended]

def Opens (cs : List Char) : Prop :=
  ∃ c tail, cs = c :: tail ∧ (c = '"' ∨ c = '[' ∨ c = '\x7b')

theorem elems_ne_nil {n : ℕ} {vs : List PyValue} (h : r.elems n cs = some (vs, rest))
    : cs ≠ [] := by
  rintro rfl
  cases n with
  | zero => cases h
  | succ n =>
    have hvalue : r.value n [] = none := by
      cases n <;> rfl
    simp [elems, hvalue] at h

theorem fields_ne_nil {n : ℕ} {fs : List (String × PyValue)} (h : r.fields n cs = some (fs, rest))
    : cs ≠ [] := by
  rintro rfl
  cases n <;> cases h

theorem skipSpace_append_of_ne_nil (h : skipSpace cs ≠ []) (more : List Char)
    : skipSpace (cs ++ more) = skipSpace cs ++ more :=
  dropWhile_append_of_ne_nil h

theorem value_of_not_opens (h : ¬Opens cs) (n : ℕ) : r.value (n + 1) cs = r.atom cs := by
  rw [value]
  all_goals
    rintro tail rfl
    exact h ⟨_, tail, rfl, by simp⟩

theorem Opens.of_append (h : Opens (cs ++ more)) (hne : cs ≠ []) : Opens cs := by
  obtain ⟨_, _, heq, hc⟩ := h
  cases cs with
  | nil => exact absurd rfl hne
  | cons d cs =>
    obtain ⟨rfl, -⟩ := cons.inj heq
    exact ⟨d, cs, rfl, hc⟩

mutual

theorem value_append {n m : ℕ} {cs rest : List Char} {v : PyValue}
    (h : r.value n cs = some (v, rest)) (hnm : n ≤ m) (hended : Ended rest ∨ Opens cs)
    (more : List Char) : r.value m (cs ++ more) = some (v, rest ++ more) := by
  match n, m, hnm with
  | 0, _, _ => cases h
  | n + 1, m + 1, hnm =>
    have hnm := Nat.le_of_succ_le_succ hnm
    by_cases hopens : Opens cs
    . obtain ⟨c, _, rfl, rfl | rfl | rfl⟩ := hopens
      . rw [value] at h
        obtain ⟨⟨body, tail'⟩, hbody, heq⟩ := map_eq_some_iff.mp h
        cases heq
        rw [cons_append, value, stringBody_append hbody (by simp) more, map_some]
      . rw [value] at h
        split at h
        . next tail' hskip =>
          cases h
          simp only [cons_append, value, skipSpace_append hskip]
        . next hclose =>
          obtain ⟨⟨vs, tail'⟩, helems, heq⟩ := map_eq_some_iff.mp h
          cases heq
          have helems' := elems_append helems hnm more
          obtain ⟨c, front, hcs⟩ := exists_cons_of_ne_nil (elems_ne_nil helems)
          rw [hcs] at hclose helems'
          rw [cons_append, value, skipSpace_append hcs]
          split
          . next heq => exact absurd (by rw [(cons.inj heq).1]) (hclose front)
          . rw [← cons_append, helems', map_some]
      . rw [value] at h
        split at h
        . next tail' hskip =>
          cases h
          simp only [cons_append, value, skipSpace_append hskip]
        . next hclose =>
          obtain ⟨⟨fs, tail'⟩, hflds, hread⟩ := bind_eq_some_iff.mp h
          obtain ⟨_, hobject, heq⟩ := map_eq_some_iff.mp hread
          cases heq
          have hflds' := fields_append hflds hnm more
          obtain ⟨c, front, hcs⟩ := exists_cons_of_ne_nil (fields_ne_nil hflds)
          rw [hcs] at hclose hflds'
          rw [cons_append, value, skipSpace_append hcs]
          split
          . next heq => exact absurd (by rw [(cons.inj heq).1]) (hclose front)
          . simp only [← cons_append, hflds', bind_some, hobject, map_some]
    . rw [value_of_not_opens hopens] at h
      have hne : cs ≠ [] := by
        rintro rfl
        cases h
      rw [value_of_not_opens (mt (Opens.of_append · hne) hopens)]
      exact atom_append h (hended.resolve_right hopens) more
termination_by n

theorem elems_append {n m : ℕ} {cs rest : List Char} {vs : List PyValue}
    (h : r.elems n cs = some (vs, rest)) (hnm : n ≤ m) (more : List Char)
    : r.elems m (cs ++ more) = some (vs, rest ++ more) := by
  match n, m, hnm with
  | 0, _, _ => cases h
  | n + 1, m + 1, hnm =>
    have hnm := Nat.le_of_succ_le_succ hnm
    simp only [elems, bind, bind_eq_some_iff] at h ⊢
    obtain ⟨⟨v, tail⟩, hvalue, h⟩ := h
    dsimp only at h
    split at h
    . next tail' hskip =>
      cases h
      have hended := ended_of_skipSpace hskip (by simp)
      refine ⟨(v, tail ++ more), value_append hvalue hnm (.inl hended) more, ?_⟩
      simp only [skipSpace_append hskip]
      rfl
    . next tail' hskip =>
      simp only [bind_eq_some_iff] at h
      obtain ⟨⟨vs', rest'⟩, helems, heq⟩ := h
      cases heq
      have hended := ended_of_skipSpace hskip (by simp)
      refine ⟨(v, tail ++ more), value_append hvalue hnm (.inl hended) more, ?_⟩
      have helems' := elems_append helems hnm more
      simp only [skipSpace_append hskip, skipSpace_append_of_ne_nil (elems_ne_nil helems), helems',
        bind_some]
      rfl
    . cases h
termination_by n

theorem fields_append {n m : ℕ} {cs rest : List Char} {fs : List (String × PyValue)}
    (h : r.fields n cs = some (fs, rest)) (hnm : n ≤ m) (more : List Char)
    : r.fields m (cs ++ more) = some (fs, rest ++ more) := by
  match n, m, hnm, cs, h with
  | 0, _, _, _, h => cases h
  | n + 1, m + 1, hnm, [], h => cases h
  | n + 1, m + 1, hnm, c :: cs, h =>
    have hnm := Nat.le_of_succ_le_succ hnm
    by_cases hc : c = '"'
    . subst hc
      simp only [cons_append, fields, bind, bind_eq_some_iff] at h ⊢
      obtain ⟨⟨key, tail⟩, hkey, h⟩ := h
      refine ⟨(key, tail ++ more), stringBody_append hkey (by simp) more, ?_⟩
      dsimp only at h ⊢
      split at h
      . next tail' hcolon =>
        rw [skipSpace_append hcolon]
        simp only [bind_eq_some_iff] at h ⊢
        obtain ⟨⟨v, rest'⟩, hvalue, h⟩ := h
        have hne : skipSpace tail' ≠ [] := by
          intro hnil
          rw [hnil] at hvalue
          cases n <;> cases hvalue
        dsimp only at h
        split at h
        . next tail'' hskip =>
          cases h
          have hended := ended_of_skipSpace hskip (by simp)
          refine ⟨(v, rest' ++ more), ?_, ?_⟩
          . rw [skipSpace_append_of_ne_nil hne]
            exact value_append hvalue hnm (.inl hended) more
          . simp only [skipSpace_append hskip]
            rfl
        . next tail'' hskip =>
          simp only [bind_eq_some_iff] at h
          obtain ⟨⟨fs', rest''⟩, hflds, heq⟩ := h
          cases heq
          have hended := ended_of_skipSpace hskip (by simp)
          have hflds' := fields_append hflds hnm more
          refine ⟨(v, rest' ++ more), ?_, ?_⟩
          . rw [skipSpace_append_of_ne_nil hne]
            exact value_append hvalue hnm (.inl hended) more
          . simp only [skipSpace_append hskip,
              skipSpace_append_of_ne_nil (fields_ne_nil hflds), hflds', bind_some]
            rfl
        . cases h
      . cases h
    . rw [fields] at h
      . cases h
      . rintro tail heq
        exact hc (cons.inj heq).1
termination_by n

end

end Reading

section Dicts

variable {r : Reading} {repr : ℚ → String} (h : r.Reads repr) (style : Style)
  {fs : List (String × PyValue)}

theorem exists_renderFields (fs : List (String × PyValue))
    : ∃ body, renderFields style repr fs = body ++ ['\x7d'] := by
  induction fs with
  | nil => exact ⟨[], by rw [renderFields, nil_append]⟩
  | cons f fs ih =>
    obtain ⟨body, hbody⟩ := ih
    refine ⟨',' :: (style.gap ++ (renderString style.ensureAscii f.1 ++
      ':' :: (style.gap ++ (render style repr f.2 ++ body)))), ?_⟩
    rw [renderFields, hbody]
    simp

theorem exists_render_dict (fs : List (String × PyValue))
    : ∃ body, render style repr (.dict fs) = '\x7b' :: (body ++ ['\x7d']) := by
  cases fs with
  | nil => exact ⟨[], by rw [render, nil_append]⟩
  | cons f fs =>
    obtain ⟨body, hbody⟩ := exists_renderFields style fs
    refine ⟨renderString style.ensureAscii f.1 ++ ':' :: (style.gap ++
      (render style repr f.2 ++ body)), ?_⟩
    rw [render, hbody]
    simp

theorem opens_dict (fs : List (String × PyValue))
    : Reading.Opens (render style repr (.dict fs)) := by
  obtain ⟨_, hbody⟩ := exists_render_dict style fs
  exact ⟨'\x7b', _, hbody, by simp⟩

include h

theorem value_dict (hfs : WellFormed r.constants (.dict fs)) {n : ℕ}
    (hn : (render style repr (.dict fs)).length ≤ n) (more : List Char)
    : r.value n (render style repr (.dict fs) ++ more) = some (.dict fs, more) := by
  have hvalue := (spells_render style h _ hfs).read_of_le le_rfl (show Stops [] by simp [Stops])
  rw [append_nil] at hvalue
  exact Reading.value_append hvalue hn (.inr (opens_dict style fs)) more

theorem loads_dict_append (hfs : WellFormed r.constants (.dict fs)) (more : List Char)
    : r.loads (String.ofList (render style repr (.dict fs) ++ more)) =
      if skipSpace more = [] then some (.dict fs) else none := by
  have hvalue : r.value ((render style repr (.dict fs) ++ more).length + 1)
      (render style repr (.dict fs) ++ more) = some (.dict fs, more) :=
    value_dict h style hfs (by simp only [length_append]; omega) more
  have hskip := (spells_render style h _ hfs).skip spaces_nil more
  rw [nil_append] at hskip
  simp only [Reading.loads, ← String.length_toList, String.toList_ofList, hskip, hvalue, bind,
    bind_some]
  split
  . next hnil => rw [if_pos hnil]; rfl
  . next hne => rw [if_neg hne]

theorem loads_torn (hfs : WellFormed r.constants (.dict fs)) {front more : List Char}
    (heq : render style repr (.dict fs) = front ++ more) (hmore : more ≠ [])
    : r.loads (String.ofList front) = none := by
  cases hloads : r.loads (String.ofList front) with
  | none => rfl
  | some w =>
    simp only [Reading.loads, ← String.length_toList, String.toList_ofList, bind,
      bind_eq_some_iff] at hloads
    obtain ⟨⟨w', rest⟩, hvalue, -⟩ := hloads
    have hne : front ≠ [] := by
      rintro rfl
      cases hvalue
    have hopens := (heq ▸ opens_dict style fs).of_append hne
    have hskip : skipSpace front = front := by
      obtain ⟨_, _, rfl, rfl | rfl | rfl⟩ := hopens
      . exact Json.skipSpace_cons _ (by decide)
      . exact Json.skipSpace_cons _ (by decide)
      . exact Json.skipSpace_cons _ (by decide)
    rw [hskip] at hvalue
    have hlong := Reading.value_append hvalue
      (show front.length + 1 ≤ (front ++ more).length + 1 by simp) (.inr hopens) more
    have hwhole := value_dict h style hfs
      (show (render style repr (.dict fs)).length ≤ (front ++ more).length + 1 by simp [heq]) []
    rw [heq, append_nil, hlong, some.injEq, Prod.mk.injEq] at hwhole
    exact absurd (append_eq_nil_iff.mp hwhole.2).2 hmore

end Dicts

end PyJson
