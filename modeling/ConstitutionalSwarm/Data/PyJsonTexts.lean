import ConstitutionalSwarm.Data.PyJsonAscii
import ConstitutionalSwarm.Data.PyJsonSorted

namespace PyJson

open List

open Json (renderString renderInt escapeChar hexQuad)

mutual

def texts : PyValue → List String
  | .str s => [s]
  | .list vs => textsElems vs
  | .dict fs => textsFields fs
  | .none | .bool _ | .int _ | .float _ => []

def textsElems : List PyValue → List String
  | [] => []
  | v :: vs => texts v ++ textsElems vs

def textsFields : List (String × PyValue) → List String
  | [] => []
  | (k, v) :: fs => k :: (texts v ++ textsFields fs)

end

def OccursIn (c : Char) (ss : List String) : Prop :=
  0x7e < c.toNat ∧ ∃ s ∈ ss, c ∈ s.toList

theorem occursIn_append {c : Char} {ss ts : List String}
    : OccursIn c (ss ++ ts) ↔ OccursIn c ss ∨ OccursIn c ts := by
  simp [OccursIn, or_and_right, exists_or, and_or_left]

theorem occursIn_cons {c : Char} {s : String} {ss : List String}
    : OccursIn c (s :: ss) ↔ OccursIn c [s] ∨ OccursIn c ss :=
  @occursIn_append c [s] ss

theorem not_occursIn_nil {c : Char} : ¬OccursIn c [] := by
  simp [OccursIn]

theorem escapeChar_false (d : Char)
    : (Plain (escapeChar false d) ∧ d.toNat ≤ 0x7e) ∨
      (escapeChar false d = [d] ∧ 0x20 ≤ d.toNat) := by
  have hescape : ∀ n, Plain ('\\' :: 'u' :: hexQuad n) := fun n =>
    plain_cons.mpr ⟨by decide, plain_cons.mpr ⟨by decide, plain_hexQuad n⟩⟩
  unfold escapeChar
  split_ifs with h1 h2 h3 h4 h5 h6 h7 hrange hsmall
  . exact .inl ⟨by decide, by rw [h1]; decide⟩
  . exact .inl ⟨by decide, by rw [h2]; decide⟩
  . exact .inl ⟨by decide, by rw [h3]; decide⟩
  . exact .inl ⟨by decide, by rw [h4]; decide⟩
  . exact .inl ⟨by decide, by rw [h5]; decide⟩
  . exact .inl ⟨by decide, by rw [h6]; decide⟩
  . exact .inl ⟨by decide, by rw [h7]; decide⟩
  . exact .inl ⟨hescape _, by simp at hrange; omega⟩
  . simp at hrange
    omega
  . exact .inr ⟨rfl, by simpa using hrange⟩

section Characters

variable {c : Char} (hc : ¬Printable c)

include hc

theorem notMem_of_plain {cs : List Char} (h : Plain cs) : c ∉ cs :=
  fun hmem => hc (h c hmem)

theorem mem_escapeChar {d : Char} : c ∈ escapeChar false d ↔ c = d ∧ 0x7e < c.toNat := by
  rcases escapeChar_false d with ⟨hplain, hsmall⟩ | ⟨heq, hlarge⟩
  . constructor
    . intro hmem
      exact absurd hmem (notMem_of_plain hc hplain)
    . rintro ⟨rfl, hlarge⟩
      omega
  . rw [heq, mem_singleton]
    constructor
    . rintro rfl
      refine ⟨rfl, ?_⟩
      by_contra hsmall
      exact hc ⟨hlarge, by omega⟩
    . exact And.left

theorem mem_renderString {s : String} : c ∈ renderString false s ↔ OccursIn c [s] := by
  have hquote : c ≠ '"' := by
    rintro rfl
    exact hc (by decide)
  simp only [renderString, mem_append, mem_cons, mem_flatMap, mem_escapeChar hc,
    hquote, not_mem_nil, or_false, false_or, OccursIn, exists_eq_left]
  constructor
  . rintro ⟨d, hd, rfl, hlarge⟩
    exact ⟨hlarge, hd⟩
  . rintro ⟨hlarge, hd⟩
    exact ⟨c, hd, rfl, hlarge⟩

section Render

variable {repr : ℚ → String} (spaced : Bool)

theorem ne_of_printable {d : Char} (hd : Printable d) : c ≠ d := by
  rintro rfl
  exact hc hd

mutual

theorem mem_render (hrepr : Literals repr) (v : PyValue) (hv : WellFormed constants v)
    : c ∈ render ⟨false, spaced⟩ repr v ↔ OccursIn c (texts v) := by
  have hscalar : ∀ w : PyValue, WellFormed constants w → texts w = [] →
      render ⟨false, spaced⟩ repr w = render ⟨true, spaced⟩ repr w →
      (c ∈ render ⟨false, spaced⟩ repr w ↔ OccursIn c (texts w)) := by
    intro w hwell hw heq
    rw [hw, heq]
    exact iff_of_false (notMem_of_plain hc (plain_render rfl hrepr w hwell)) not_occursIn_nil
  match v with
  | .none | .bool true | .bool false | .int _ | .float _ | .list [] | .dict [] =>
    exact hscalar _ hv rfl (by rw [render, render])
  | .str s =>
    rw [render, texts]
    exact mem_renderString hc
  | .list (v :: vs) =>
    simp [render, texts, textsElems, occursIn_append,
      ne_of_printable hc (show Printable '[' by decide), mem_render hrepr v hv.1,
      mem_renderElems hrepr vs hv.2]
  | .dict ((k, v) :: fs) =>
    rw [texts, textsFields, occursIn_cons]
    simp [render, occursIn_append, ne_of_printable hc (show Printable '\x7b' by decide),
      ne_of_printable hc (show Printable ':' by decide),
      notMem_of_plain hc (plain_gap ⟨false, spaced⟩), mem_renderString hc,
      mem_render hrepr v hv.2.1, mem_renderFields hrepr fs hv.2.2]

theorem mem_renderElems (hrepr : Literals repr) (vs : List PyValue)
    (hvs : WellFormedElems constants vs)
    : c ∈ renderElems ⟨false, spaced⟩ repr vs ↔ OccursIn c (textsElems vs) := by
  match vs with
  | [] =>
    simp only [renderElems, textsElems, mem_singleton, not_occursIn_nil,
      ne_of_printable hc (show Printable ']' by decide)]
  | v :: vs =>
    simp [renderElems, textsElems, occursIn_append,
      ne_of_printable hc (show Printable ',' by decide),
      notMem_of_plain hc (plain_gap ⟨false, spaced⟩), mem_render hrepr v hvs.1,
      mem_renderElems hrepr vs hvs.2]

theorem mem_renderFields (hrepr : Literals repr) (fs : List (String × PyValue))
    (hfs : WellFormedFields constants fs)
    : c ∈ renderFields ⟨false, spaced⟩ repr fs ↔ OccursIn c (textsFields fs) := by
  match fs with
  | [] =>
    simp [renderFields, textsFields, not_occursIn_nil,
      ne_of_printable hc (show Printable '\x7d' by decide)]
  | (k, v) :: fs =>
    rw [textsFields, occursIn_cons]
    simp [renderFields, occursIn_append, ne_of_printable hc (show Printable ',' by decide),
      ne_of_printable hc (show Printable ':' by decide),
      notMem_of_plain hc (plain_gap ⟨false, spaced⟩), mem_renderString hc, mem_render hrepr v hfs.1,
      mem_renderFields hrepr fs hfs.2]

end

end Render

end Characters

theorem textsFields_eq (fs : List (String × PyValue))
    : textsFields fs = fs.flatMap fun f => f.1 :: texts f.2 := by
  induction fs with
  | nil => rfl
  | cons f fs ih => rw [textsFields, ih, flatMap_cons, cons_append]

mutual

theorem texts_sortKeys (v : PyValue) : (texts (sortKeys v)).Perm (texts v) := by
  match v with
  | .none | .bool _ | .int _ | .float _ | .str _ => exact .refl _
  | .list vs => exact textsElems_sortKeys vs
  | .dict fs =>
    rw [sortKeys, texts, texts]
    refine List.Perm.trans ?_ (textsFields_sortKeys fs)
    rw [textsFields_eq, textsFields_eq]
    exact (Smallest.sortBy_perm _).flatMap_right _

theorem textsElems_sortKeys (vs : List PyValue)
    : (textsElems (sortKeysElems vs)).Perm (textsElems vs) := by
  match vs with
  | [] => exact .refl _
  | v :: vs => exact (texts_sortKeys v).append (textsElems_sortKeys vs)

theorem textsFields_sortKeys (fs : List (String × PyValue))
    : (textsFields (sortKeysFields fs)).Perm (textsFields fs) := by
  match fs with
  | [] => exact .refl _
  | (k, v) :: fs => exact ((texts_sortKeys v).append (textsFields_sortKeys fs)).cons k

end

end PyJson
