import ConstitutionalSwarm.Data.Json

/-!
This module contains the proof that the JSON reader inverts the JSON writer, with and without ASCII
escaping, for every set of hooks that leaves the written value alone.
-/

namespace Json

open List

theorem hexVal_digitChar : ∀ d < 16, hexVal (Nat.digitChar d) = some d := by
  decide

variable {n : Nat} {ε : Type} {rest : List Char}

theorem hex4_hexQuad (h : n < 65536) (rest : List Char)
    : hex4 (hexQuad n ++ rest) = some (n, rest) := by
  simp only [hexQuad, cons_append, nil_append, hex4]
  rw [hexVal_digitChar _ (by omega), hexVal_digitChar _ (by omega), hexVal_digitChar _ (by omega),
    hexVal_digitChar _ (by omega)]
  simp only [Option.pure_def, Option.bind_eq_bind, Option.bind_some, Option.some.injEq,
    Prod.mk.injEq, and_true]
  omega

variable (ascii : Bool) (c : Char)

theorem toNat_lt : c.toNat < 0x110000 := by
  rcases c.valid with hc | hc
  . have : c.toNat < 0xd800 := hc
    omega
  . exact hc.2

theorem toNat_not_surrogate : isHighSurrogate c.toNat = false ∧ isLowSurrogate c.toNat = false := by
  simp only [isHighSurrogate, isLowSurrogate, Bool.and_eq_false_iff, decide_eq_false_iff_not]
  rcases c.valid with hc | hc
  . have : c.toNat < 0xd800 := hc
    omega
  . have : 0xdfff < c.toNat := hc.1
    omega

theorem isHighSurrogate_highSurrogate (h : n < 0x110000)
    : isHighSurrogate (highSurrogate n) ∧ highSurrogate n < 65536 := by
  have hlow : 0xd800 ≤ highSurrogate n := by unfold highSurrogate; omega
  have hhigh : highSurrogate n < 0xdc00 := by unfold highSurrogate; omega
  exact ⟨by unfold isHighSurrogate; rw [decide_eq_true hlow, decide_eq_true hhigh]; rfl, by omega⟩

theorem isLowSurrogate_lowSurrogate (n : Nat)
    : isLowSurrogate (lowSurrogate n) ∧ lowSurrogate n < 65536 := by
  have hlow : 0xdc00 ≤ lowSurrogate n := by unfold lowSurrogate; omega
  have hhigh : lowSurrogate n < 0xe000 := by unfold lowSurrogate; omega
  exact ⟨by unfold isLowSurrogate; rw [decide_eq_true hlow, decide_eq_true hhigh]; rfl, by omega⟩

theorem joinSurrogates_split (h : 0x10000 ≤ n)
    : joinSurrogates (highSurrogate n) (lowSurrogate n) = n := by
  have hhigh : highSurrogate n - 0xd800 = (n - 0x10000) / 1024 := Nat.add_sub_cancel_left ..
  have hlow : lowSurrogate n - 0xdc00 = (n - 0x10000) % 1024 := Nat.add_sub_cancel_left ..
  unfold joinSurrogates
  rw [hhigh, hlow, Nat.add_assoc, Nat.div_add_mod', Nat.add_sub_cancel' h]

theorem unicodeEscape_hexQuad (h : c.toNat < 0x10000) (rest : List Char)
    : unicodeEscape (hexQuad c.toNat ++ rest) = some (c, rest) := by
  obtain ⟨hhigh, hlow⟩ := toNat_not_surrogate c
  unfold unicodeEscape
  rw [hex4_hexQuad h]
  simp [hhigh, hlow, Char.ofNat_toNat]

theorem unicodeEscape_pair {c : Char} {high low : Nat} (hhigh : isHighSurrogate high)
    (hhighlt : high < 65536) (hlow : isLowSurrogate low) (hlowlt : low < 65536)
    (hjoin : joinSurrogates high low = c.toNat) (rest : List Char)
    : unicodeEscape (hexQuad high ++ ('\\' :: 'u' :: (hexQuad low ++ rest))) = some (c, rest) := by
  unfold unicodeEscape
  rw [hex4_hexQuad hhighlt]
  simp [hhigh, hex4_hexQuad hlowlt, hlow, hjoin, Char.ofNat_toNat]

theorem unicodeEscape_surrogates (h : 0x10000 ≤ c.toNat) (rest : List Char)
    : unicodeEscape (hexQuad (highSurrogate c.toNat) ++
        ('\\' :: 'u' :: (hexQuad (lowSurrogate c.toNat) ++ rest)))
      =
      some (c, rest) := by
  have hhigh := isHighSurrogate_highSurrogate (toNat_lt c)
  have hlow := isLowSurrogate_lowSurrogate c.toNat
  exact unicodeEscape_pair hhigh.1 hhigh.2 hlow.1 hlow.2 (joinSurrogates_split h) rest

theorem nextChar_escapeChar (rest : List Char)
    : nextChar (escapeChar ascii c ++ rest) = some (c, rest) := by
  unfold escapeChar
  iterate 7
    split
    . next h => subst h; rfl
  split
  . split
    . next h =>
      simp only [cons_append, nextChar, if_true]
      exact unicodeEscape_hexQuad c h rest
    . next h =>
      simp only [cons_append, append_assoc, nextChar, if_true]
      exact unicodeEscape_surrogates c (by omega) rest
  . next hquote hslash _ _ _ _ _ hplain =>
    simp only [cons_append, nil_append, nextChar]
    rw [if_neg hslash, if_neg (by omega)]

theorem escapeChar_head_ne_quote (rest tail : List Char)
    : escapeChar ascii c ++ rest ≠ '"' :: tail := by
  unfold escapeChar
  split
  . simp
  . next h =>
    split_ifs <;> simp [h]

theorem stringBody_of_ne_quote {cs : List Char} (n : Nat) (h : ∀ tail, cs ≠ '"' :: tail)
    : stringBody (n + 1) cs
      =
      match nextChar cs with
      | none => none
      | some (c, rest) => (stringBody n rest).map fun (body, rest) => (c :: body, rest) := by
  rw [stringBody] <;> first | rfl | exact h

theorem stringBody_flatMap_escapeChar (body rest : List Char)
    : ∀ n, body.length < n →
      stringBody n (body.flatMap (escapeChar ascii) ++ '"' :: rest) = some (body, rest) := by
  induction body with
  | nil =>
    rintro (_ | n) hn
    . cases hn
    . rfl
  | cons c body ih =>
    intro n hn
    simp only [length_cons] at hn
    obtain _ | n := n
    . omega
    rw [flatMap_cons, append_assoc,
      stringBody_of_ne_quote n (escapeChar_head_ne_quote ascii c _), nextChar_escapeChar]
    simp [ih n (by omega)]

theorem escapeChar_ne_nil : escapeChar ascii c ≠ [] := by
  unfold escapeChar
  split_ifs <;> simp

theorem length_le_length_flatMap_escapeChar (body : List Char)
    : body.length ≤ (body.flatMap (escapeChar ascii)).length := by
  induction body with
  | nil => simp
  | cons c body ih =>
    have := length_pos_iff.mpr (escapeChar_ne_nil ascii c)
    simp only [flatMap_cons, length_append, length_cons]
    omega

theorem Hooks.string_render (h : Hooks ε) (ascii : Bool) (s : String) (rest : List Char)
    : h.string (s.toList.flatMap (escapeChar ascii) ++ '"' :: rest) = .ok (s, rest) := by
  have hlen := length_le_length_flatMap_escapeChar ascii s.toList
  unfold Hooks.string
  rw [stringBody_flatMap_escapeChar ascii s.toList rest _
    (by simp only [length_append, length_cons]; omega)]
  simp

theorem toDigits_head_ne_zero (h : 0 < n) (ds : List Char)
    : Nat.toDigits 10 n ≠ '0' :: ds := by
  induction n using Nat.strong_induction_on generalizing ds with
  | _ n ih =>
    by_cases hn : n < 10
    . rw [Nat.toDigits_of_lt_base hn]
      have hdigit : ∀ d < 10, 0 < d → Nat.digitChar d ≠ '0' := by decide
      simp [hdigit n hn h]
    . rw [Nat.toDigits_of_base_le (by omega) (by omega)]
      cases hds : Nat.toDigits 10 (n / 10) with
      | nil => exact absurd hds Nat.toDigits_ne_nil
      | cons d tail =>
        have := ih (n / 10) (by omega) (by omega) tail
        rw [hds] at this
        simp only [ne_eq, cons.injEq, and_true] at this
        simp [this]

def Terminated (rest : List Char) : Prop :=
  rest = [] ∨ ∃ tail, rest = ',' :: tail ∨ rest = ']' :: tail ∨ rest = '}' :: tail

theorem Terminated.cons_comma (cs : List Char) : Terminated (',' :: cs) :=
  .inr ⟨cs, .inl rfl⟩

theorem Terminated.head_not_digit (hrest : Terminated rest)
    : ∀ c ∈ rest.head?, c.isDigit = false := by
  rcases hrest with rfl | ⟨tail, rfl | rfl | rfl⟩ <;> simp

section Digits

variable {ds rest : List Char}

theorem takeWhile_isDigit_append (hrest : ∀ c ∈ rest.head?, c.isDigit = false)
    (hds : ∀ d ∈ ds, d.isDigit)
    : (ds ++ rest).takeWhile Char.isDigit = ds := by
  rw [takeWhile_append_of_pos hds]
  cases rest with
  | nil => simp
  | cons c rest => simp [hrest c (by simp)]

theorem dropWhile_isDigit_append (hrest : ∀ c ∈ rest.head?, c.isDigit = false)
    (hds : ∀ d ∈ ds, d.isDigit)
    : (ds ++ rest).dropWhile Char.isDigit = rest := by
  rw [dropWhile_append_of_pos hds]
  cases rest with
  | nil => rfl
  | cons c rest => simp [hrest c (by simp)]

end Digits

theorem Terminated.isFloatTail (hrest : Terminated rest)
    : isFloatTail rest = false := by
  rcases hrest with rfl | ⟨tail, rfl | rfl | rfl⟩ <;> rfl

theorem natural_toDigits (n : Nat) (hrest : ∀ c ∈ rest.head?, c.isDigit = false)
    : natural (Nat.toDigits 10 n ++ rest) = some (n, rest) := by
  have hdigits : ∀ d ∈ Nat.toDigits 10 n, d.isDigit := by
    intro d hd
    exact Nat.isDigit_of_mem_toDigits (by decide) (by decide) hd
  by_cases hn : n = 0
  . subst hn
    rfl
  . unfold natural
    split
    . next tail heq =>
      -- a positive number has no leading zero
      cases hds : Nat.toDigits 10 n with
      | nil => exact absurd hds Nat.toDigits_ne_nil
      | cons d ds =>
        rw [hds] at heq
        simp only [cons_append, cons.injEq] at heq
        exact absurd (heq.1 ▸ hds) (toDigits_head_ne_zero (by omega) ds)
    . rw [takeWhile_isDigit_append hrest hdigits, dropWhile_isDigit_append hrest hdigits]
      split
      . next heq => exact absurd heq Nat.toDigits_ne_nil
      . rw [Nat.ofDigitChars_ten_toDigits]

theorem Hooks.number_toDigits (h : Hooks ε) (negative : Bool) (n : Nat) (hrest : Terminated rest)
    : h.number negative (Nat.toDigits 10 n ++ rest)
      =
      (h.int (if negative then -n else n)).map fun v => (v, rest) := by
  unfold Hooks.number
  rw [natural_toDigits n hrest.head_not_digit]
  simp [hrest.isFloatTail]

theorem toDigits_cons (n : Nat) : ∃ d ds, Nat.toDigits 10 n = d :: ds ∧ d.isDigit := by
  cases hds : Nat.toDigits 10 n with
  | nil => exact absurd hds Nat.toDigits_ne_nil
  | cons d ds =>
    exact ⟨d, ds, rfl, Nat.isDigit_of_mem_toDigits (by decide) (by decide) (hds ▸ mem_cons_self)⟩

theorem ne_of_isDigit {d : Char} (hd : d.isDigit)
    : d ≠ '"' ∧ d ≠ '[' ∧ d ≠ '\x7b' ∧ d ≠ 'n' ∧ d ≠ 't' ∧ d ≠ 'f' ∧ d ≠ 'N' ∧ d ≠ 'I' ∧ d ≠ '-' ∧
      d ≠ ']' ∧ isSpace d = false := by
  have hspace : isSpace d = false := by
    simp only [isSpace, Bool.or_eq_false_iff, decide_eq_false_iff_not]
    refine ⟨⟨⟨?_, ?_⟩, ?_⟩, ?_⟩ <;> rintro rfl <;> exact absurd hd (by decide)
  refine ⟨?_, ?_, ?_, ?_, ?_, ?_, ?_, ?_, ?_, ?_, hspace⟩ <;> rintro rfl <;>
    exact absurd hd (by decide)

theorem Hooks.atom_toDigits (h : Hooks ε) (n : Nat) (hrest : Terminated rest)
    : h.atom (Nat.toDigits 10 n ++ rest) = (h.int n).map fun v => (v, rest) := by
  have hnumber := h.number_toDigits false n hrest
  obtain ⟨_, _, hds, hd⟩ := toDigits_cons n
  obtain ⟨-, -, -, hn, ht, hf, hN, hI, hminus, -, -⟩ := ne_of_isDigit hd
  rw [hds] at hnumber ⊢
  simp only [cons_append] at hnumber ⊢
  rw [Hooks.atom]
  . exact hnumber
  all_goals (intros; simp_all)

theorem Hooks.atom_neg_toDigits (h : Hooks ε) (n : Nat) (hrest : Terminated rest)
    : h.atom ('-' :: (Nat.toDigits 10 n ++ rest)) = (h.int (-n)).map fun v => (v, rest) := by
  have hnumber := h.number_toDigits true n hrest
  obtain ⟨_, _, hds, hd⟩ := toDigits_cons n
  obtain ⟨-, -, -, -, -, -, -, hI, -, -, -⟩ := ne_of_isDigit hd
  rw [hds] at hnumber ⊢
  simp only [cons_append] at hnumber ⊢
  rw [Hooks.atom]
  . exact hnumber
  all_goals (intros; simp_all)

theorem render_cons (v : Json)
    : ∃ c cs, render ascii v = c :: cs ∧ isSpace c = false ∧ c ≠ ']' := by
  match v with
  | .null => exact ⟨'n', _, by rw [render], by decide⟩
  | .bool true => exact ⟨'t', _, by rw [render], by decide⟩
  | .bool false => exact ⟨'f', _, by rw [render], by decide⟩
  | .str s => exact ⟨'"', _, by rw [render, renderString, cons_append], by decide⟩
  | .arr [] => exact ⟨'[', _, by rw [render], by decide⟩
  | .arr (_ :: _) => exact ⟨'[', _, by rw [render], by decide⟩
  | .obj [] => exact ⟨'\x7b', _, by rw [render], by decide⟩
  | .obj ((_, _) :: _) => exact ⟨'\x7b', _, by rw [render], by decide⟩
  | .int (.negSucc n) => exact ⟨'-', _, by rw [render, renderInt], by decide⟩
  | .int (.ofNat n) =>
    obtain ⟨d, ds, hds, hd⟩ := toDigits_cons n
    obtain ⟨-, -, -, -, -, -, -, -, -, hbracket, hspace⟩ := ne_of_isDigit hd
    exact ⟨d, ds, by rw [render, renderInt, hds], hspace, hbracket⟩

theorem skipSpace_cons {c : Char} (cs : List Char) (h : isSpace c = false)
    : skipSpace (c :: cs) = c :: cs := by
  simp [skipSpace, dropWhile, h]

theorem skipSpace_render (v : Json) (rest : List Char)
    : skipSpace (render ascii v ++ rest) = render ascii v ++ rest := by
  obtain ⟨_, _, hcs, hspace, -⟩ := render_cons ascii v
  rw [hcs, cons_append, skipSpace_cons _ hspace]

theorem skipSpace_renderString (s : String) (rest : List Char)
    : skipSpace (renderString ascii s ++ rest) = renderString ascii s ++ rest :=
  skipSpace_cons _ (by decide)

theorem renderString_append (s : String) (rest : List Char)
    : renderString ascii s ++ rest =
      '"' :: (s.toList.flatMap (escapeChar ascii) ++ '"' :: rest) := by
  simp [renderString]

namespace Hooks

variable {ε : Type} (h : Hooks ε)

mutual

def Accepts : Json → Prop
  | .int i => h.int i = .ok (.int i)
  | .arr vs => AcceptsElems vs
  | .obj fs => h.object fs = .ok (.obj fs) ∧ AcceptsFields fs
  | .null | .bool _ | .str _ => True

def AcceptsElems : List Json → Prop
  | [] => True
  | v :: vs => Accepts v ∧ AcceptsElems vs

def AcceptsFields : List (String × Json) → Prop
  | [] => True
  | (_, v) :: fs => Accepts v ∧ AcceptsFields fs

end

variable {h}

mutual

theorem value_render (ascii : Bool) (v : Json) (hv : h.Accepts v) (n : Nat) (rest : List Char)
    (hn : (render ascii v).length ≤ n) (hrest : Terminated rest)
    : h.value n (render ascii v ++ rest) = .ok (v, rest) := by
  obtain ⟨n, rfl⟩ : ∃ m, n = m + 1 := by
    obtain ⟨c, cs, hcs, -⟩ := render_cons ascii v
    exact ⟨n - 1, by simp only [hcs, length_cons] at hn; omega⟩
  match v with
  | .null => simp [render, Hooks.value, Hooks.atom]
  | .bool true => simp [render, Hooks.value, Hooks.atom]
  | .bool false => simp [render, Hooks.value, Hooks.atom]
  | .str s =>
    simp [render, renderString, Hooks.value, Hooks.string_render, Except.map]
  | .int (.negSucc k) =>
    have hatom := h.atom_neg_toDigits (k + 1) hrest
    have hint : (-((k + 1 : Nat) : Int)) = Int.negSucc k := rfl
    rw [Accepts] at hv
    rw [hint, hv] at hatom
    simp [render, renderInt, Hooks.value, hatom, Except.map]
  | .int (.ofNat k) =>
    have hatom := h.atom_toDigits k hrest
    obtain ⟨_, _, hds, hd⟩ := toDigits_cons k
    obtain ⟨hquote, hbracket, hbrace, -⟩ := ne_of_isDigit hd
    rw [Accepts] at hv
    rw [← Int.ofNat_eq_natCast, hv, hds, cons_append] at hatom
    rw [render, renderInt, hds, cons_append, Hooks.value]
    . exact hatom
    all_goals (intros; simp_all)
  | .arr [] =>
    simp [render, Hooks.value, skipSpace, isSpace]
  | .arr (v :: vs) =>
    rw [Accepts, AcceptsElems] at hv
    simp only [render, length_cons, length_append] at hn
    have helems := elems_render ascii v vs hv.1 hv.2 n rest (by omega)
    obtain ⟨c, cs, hcs, hspace, hbracket⟩ := render_cons ascii v
    rw [hcs] at helems
    simp only [render, hcs, cons_append, append_assoc, Hooks.value,
      skipSpace_cons _ hspace] at helems ⊢
    split
    . next heq => simp_all
    . rw [helems]
      rfl
  | .obj [] =>
    rw [Accepts] at hv
    simp [render, Hooks.value, skipSpace, isSpace, hv.1, Except.map]
  | .obj ((k, v) :: fs) =>
    rw [Accepts, AcceptsFields] at hv
    simp only [render, length_cons, length_append] at hn
    have hflds := fields_render ascii k v fs hv.2.1 hv.2.2 n rest (by omega)
    simp only [render, renderString_append, cons_append, append_assoc, Hooks.value,
      skipSpace_cons _ (show isSpace '"' = false by decide)] at hflds ⊢
    split
    . next heq => simp at heq
    . rw [hflds]
      simp [hv.1, Except.map, bind, Except.bind]
termination_by n

theorem elems_render (ascii : Bool) (v : Json) (vs : List Json) (hv : h.Accepts v)
    (hvs : h.AcceptsElems vs) (n : Nat) (rest : List Char)
    (hn : (render ascii v).length + (renderElems ascii vs).length ≤ n)
    : h.elems n (render ascii v ++ (renderElems ascii vs ++ rest)) = .ok (v :: vs, rest) := by
  match vs with
  | [] =>
    simp only [renderElems, length_singleton] at hn
    obtain ⟨n, rfl⟩ : ∃ m, n = m + 1 := ⟨n - 1, by omega⟩
    have hvalue := value_render ascii v hv n (']' :: rest) (by omega)
      (.inr ⟨rest, .inr (.inl rfl)⟩)
    simp only [renderElems, cons_append, nil_append, Hooks.elems, hvalue]
    simp [bind, Except.bind, pure, Except.pure, skipSpace, isSpace]
  | w :: ws =>
    rw [AcceptsElems] at hvs
    simp only [renderElems, length_cons, length_append] at hn
    obtain ⟨n, rfl⟩ : ∃ m, n = m + 1 := ⟨n - 1, by omega⟩
    have hvalue := value_render ascii v hv n
      (',' :: (render ascii w ++ (renderElems ascii ws ++ rest))) (by omega)
      (Terminated.cons_comma _)
    have helems := elems_render ascii w ws hvs.1 hvs.2 n rest (by omega)
    simp only [renderElems, cons_append, append_assoc, Hooks.elems, hvalue]
    simp [bind, Except.bind, pure, Except.pure,
      skipSpace_cons _ (show isSpace ',' = false by decide), skipSpace_render, helems]
termination_by n

theorem fields_render (ascii : Bool) (k : String) (v : Json) (fs : List (String × Json))
    (hv : h.Accepts v) (hfs : h.AcceptsFields fs) (n : Nat) (rest : List Char)
    (hn : (render ascii v).length + (renderFields ascii fs).length ≤ n)
    : h.fields n (renderString ascii k ++ (':' :: (render ascii v ++
        (renderFields ascii fs ++ rest))))
      =
      .ok ((k, v) :: fs, rest) := by
  match fs with
  | [] =>
    simp only [renderFields, length_singleton] at hn
    obtain ⟨n, rfl⟩ : ∃ m, n = m + 1 := ⟨n - 1, by omega⟩
    have hvalue := value_render ascii v hv n ('\x7d' :: rest) (by omega)
      (.inr ⟨rest, .inr (.inr rfl)⟩)
    rw [renderString_append, Hooks.fields, Hooks.string_render, renderFields]
    simp [bind, Except.bind, pure, Except.pure,
      skipSpace_cons _ (show isSpace ':' = false by decide),
      skipSpace_cons _ (show isSpace '\x7d' = false by decide), skipSpace_render, hvalue]
  | (l, w) :: fs =>
    rw [AcceptsFields] at hfs
    simp only [renderFields, length_cons, length_append] at hn
    obtain ⟨n, rfl⟩ : ∃ m, n = m + 1 := ⟨n - 1, by omega⟩
    have hvalue := value_render ascii v hv n
      (',' :: (renderString ascii l ++ ':' :: (render ascii w ++ (renderFields ascii fs ++ rest))))
      (by omega) (Terminated.cons_comma _)
    have hflds := fields_render ascii l w fs hfs.1 hfs.2 n rest (by omega)
    simp only [renderFields, cons_append, append_assoc] at hvalue hflds ⊢
    rw [renderString_append, Hooks.fields, Hooks.string_render]
    simp [bind, Except.bind, pure, Except.pure,
      skipSpace_cons _ (show isSpace ':' = false by decide),
      skipSpace_cons _ (show isSpace ',' = false by decide), skipSpace_render,
      skipSpace_renderString, hvalue, hflds]
termination_by n

end

theorem loads_dumps (ascii : Bool) {v : Json} (hv : h.Accepts v)
    : h.loads (v.dumps ascii) = .ok v := by
  have hlen : (v.dumps ascii).length = (render ascii v).length := by
    simp [dumps, ← String.length_toList]
  have hvalue := value_render ascii v hv ((render ascii v).length + 1) [] (by omega) (.inl rfl)
  have hskip := skipSpace_render ascii v []
  rw [append_nil] at hvalue hskip
  unfold Hooks.loads
  rw [hlen, dumps, String.toList_ofList, hskip, hvalue]
  rfl

end Hooks

section Dict

variable {α : Type}

theorem sortedKeys_iff {entries : List (String × α)}
    : SortedKeys entries ↔ (entries.map Prod.fst).Pairwise (· < ·) :=
  pairwise_map.symm

variable {key : String} {value : α} {d : List (String × α)}

theorem dictSet_cons_of_gt {k : String} {v : α} (h : k < key)
    : dictSet key value ((k, v) :: d) = (k, v) :: dictSet key value d := by
  rw [dictSet, if_neg (lt_asymm h), if_neg (ne_of_gt h)]

theorem dictSet_append (h : ∀ p ∈ d, p.1 < key) : dictSet key value d = d ++ [(key, value)] := by
  induction d with
  | nil => rfl
  | cons p d ih =>
    have hp : p.1 < key := h p mem_cons_self
    rw [dictSet_cons_of_gt hp, ih fun q hq => h q (mem_cons_of_mem _ hq), cons_append]

theorem mem_dictSet {p : String × α} (h : p ∈ dictSet key value d) : p = (key, value) ∨ p ∈ d := by
  induction d with
  | nil => exact .inl (by simpa [dictSet] using h)
  | cons q d ih =>
    rw [dictSet] at h
    split_ifs at h with hlt heq
    . exact mem_cons.mp h
    . rcases mem_cons.mp h with h | h
      . exact .inl h
      . exact .inr (mem_cons_of_mem _ h)
    . rcases mem_cons.mp h with h | h
      . exact .inr (h ▸ mem_cons_self)
      . exact (ih h).imp_right (mem_cons_of_mem _)

theorem sortedKeys_dictSet (h : SortedKeys d) : SortedKeys (dictSet key value d) := by
  induction d with
  | nil => simp [dictSet, SortedKeys]
  | cons q d ih =>
    obtain ⟨hq, hd⟩ := pairwise_cons.mp h
    rw [dictSet]
    split_ifs with hlt heq
    . exact pairwise_cons.mpr ⟨by
        rintro p hp
        rcases mem_cons.mp hp with rfl | hp
        . exact hlt
        . exact hlt.trans (hq p hp), h⟩
    . exact pairwise_cons.mpr ⟨fun p hp => heq ▸ hq p hp, hd⟩
    . refine pairwise_cons.mpr ⟨?_, ih hd⟩
      intro p hp
      rcases mem_dictSet hp with rfl | hp
      . exact lt_of_le_of_ne (not_lt.mp hlt) (Ne.symm heq)
      . exact hq p hp

theorem sortedKeys_dict (pairs : List (String × α)) : SortedKeys (dict pairs) := by
  unfold dict
  generalize hd : ([] : List (String × α)) = d
  have hsort : SortedKeys d := by subst hd; simp [SortedKeys]
  clear hd
  induction pairs generalizing d with
  | nil => exact hsort
  | cons p pairs ih => exact ih _ (sortedKeys_dictSet hsort)

theorem foldl_dictSet_of_sortedKeys {pairs : List (String × α)} (h : SortedKeys (d ++ pairs))
    : pairs.foldl (fun d p => dictSet p.1 p.2 d) d = d ++ pairs := by
  induction pairs generalizing d with
  | nil => simp
  | cons p pairs ih =>
    have hlast : ∀ q ∈ d, q.1 < p.1 := fun q hq =>
      (pairwise_append.mp h).2.2 q hq p mem_cons_self
    rw [foldl_cons, dictSet_append hlast, ih (by simpa using h)]
    simp

theorem dict_of_sortedKeys {entries : List (String × α)} (h : SortedKeys entries)
    : dict entries = entries := by
  exact foldl_dictSet_of_sortedKeys (by simpa using h)

end Dict

mutual

def Canonical : Json → Prop
  | .arr vs => CanonicalElems vs
  | .obj fs => SortedKeys fs ∧ CanonicalFields fs
  | .null | .bool _ | .int _ | .str _ => True

def CanonicalElems : List Json → Prop
  | [] => True
  | v :: vs => Canonical v ∧ CanonicalElems vs

def CanonicalFields : List (String × Json) → Prop
  | [] => True
  | (_, v) :: fs => Canonical v ∧ CanonicalFields fs

end

theorem canonicalElems_iff {vs : List Json} : CanonicalElems vs ↔ ∀ v ∈ vs, v.Canonical := by
  induction vs with
  | nil => simp [CanonicalElems]
  | cons v vs ih => simp [CanonicalElems, ih]

theorem canonicalFields_iff {fs : List (String × Json)}
    : CanonicalFields fs ↔ ∀ f ∈ fs, f.2.Canonical := by
  induction fs with
  | nil => simp [CanonicalFields]
  | cons f fs ih => simp [CanonicalFields, ih]

theorem canonical_obj {fs : List (String × Json)} (hflds : ∀ f ∈ fs, f.2.Canonical)
    (hsort : (fs.map Prod.fst).Pairwise (· < ·)) : (Json.obj fs).Canonical := by
  rw [Canonical]
  exact ⟨sortedKeys_iff.mpr hsort, canonicalFields_iff.mpr hflds⟩

theorem canonical_arr {vs : List Json} (h : ∀ v ∈ vs, v.Canonical) : (Json.arr vs).Canonical := by
  rw [Canonical]
  exact canonicalElems_iff.mpr h

@[simp]
theorem canonical_str (s : String) : (Json.str s).Canonical := by
  rw [Canonical]
  trivial

section Plain

variable {ε : Type} (e : ε)

mutual

theorem accepts_plainHooks : ∀ {v : Json}, v.Canonical → (plainHooks e).Accepts v
  | .null, _ | .bool _, _ | .str _, _ => by rw [Hooks.Accepts]; trivial
  | .int _, _ => by rw [Hooks.Accepts]; rfl
  | .arr _, h => by
    rw [Canonical] at h
    rw [Hooks.Accepts]
    exact acceptsElems_plainHooks h
  | .obj _, h => by
    rw [Canonical] at h
    rw [Hooks.Accepts]
    exact ⟨by simp only [plainHooks, dict_of_sortedKeys h.1], acceptsFields_plainHooks h.2⟩

theorem acceptsElems_plainHooks
    : ∀ {vs : List Json}, CanonicalElems vs → (plainHooks e).AcceptsElems vs
  | [], _ => by rw [Hooks.AcceptsElems]; trivial
  | _ :: _, h => by
    rw [CanonicalElems] at h
    rw [Hooks.AcceptsElems]
    exact ⟨accepts_plainHooks h.1, acceptsElems_plainHooks h.2⟩

theorem acceptsFields_plainHooks
    : ∀ {fs : List (String × Json)}, CanonicalFields fs → (plainHooks e).AcceptsFields fs
  | [], _ => by rw [Hooks.AcceptsFields]; trivial
  | (_, _) :: _, h => by
    rw [CanonicalFields] at h
    rw [Hooks.AcceptsFields]
    exact ⟨accepts_plainHooks h.1, acceptsFields_plainHooks h.2⟩

end

theorem loads_dumps_of_canonical (ascii : Bool) {v : Json} (h : v.Canonical)
    : (plainHooks e).loads (v.dumps ascii) = .ok v :=
  Hooks.loads_dumps ascii (accepts_plainHooks e h)

theorem eq_of_dumps_eq {ascii ascii' : Bool} {v w : Json} (hv : v.Canonical) (hw : w.Canonical)
    (h : v.dumps ascii = w.dumps ascii') : v = w := by
  have hread := loads_dumps_of_canonical () ascii hv
  rw [h, loads_dumps_of_canonical () ascii' hw] at hread
  exact (Except.ok.inj hread).symm

end Plain

end Json
