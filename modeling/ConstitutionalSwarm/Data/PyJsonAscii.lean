import ConstitutionalSwarm.Data.PyJsonLemmas

namespace PyJson

open Json (renderString renderInt escapeChar hexQuad)

def Printable (c : Char) : Prop :=
  0x20 ≤ c.toNat ∧ c.toNat ≤ 0x7e

instance (c : Char) : Decidable (Printable c) :=
  inferInstanceAs (Decidable (_ ∧ _))

def Plain (cs : List Char) : Prop :=
  ∀ c ∈ cs, Printable c

instance (cs : List Char) : Decidable (Plain cs) :=
  inferInstanceAs (Decidable (∀ c ∈ cs, Printable c))

theorem plain_append {cs ds : List Char} : Plain (cs ++ ds) ↔ Plain cs ∧ Plain ds :=
  List.forall_mem_append

theorem plain_cons {c : Char} {cs : List Char} : Plain (c :: cs) ↔ Printable c ∧ Plain cs :=
  List.forall_mem_cons

theorem plain_nil : Plain [] := by simp [Plain]

theorem printable_of_isDigit {c : Char} (h : c.isDigit) : Printable c := by
  simp only [Char.isDigit, Bool.and_eq_true, decide_eq_true_eq, UInt32.le_iff_toNat_le] at h
  exact ⟨le_trans (by decide) h.1, le_trans h.2 (by decide)⟩

theorem plain_digits {ds : List Char} (h : ∀ d ∈ ds, d.isDigit) : Plain ds :=
  fun d hd => printable_of_isDigit (h d hd)

theorem plain_hexQuad (n : ℕ) : Plain (hexQuad n) := by
  have hdigit : ∀ d < 16, Printable (Nat.digitChar d) := by decide
  simp only [hexQuad, plain_cons, plain_nil, and_true]
  exact ⟨hdigit _ (Nat.mod_lt _ (by decide)), hdigit _ (Nat.mod_lt _ (by decide)),
    hdigit _ (Nat.mod_lt _ (by decide)), hdigit _ (Nat.mod_lt _ (by decide))⟩

theorem plain_escapeChar (c : Char) : Plain (escapeChar true c) := by
  have hescape : ∀ n, Plain ('\\' :: 'u' :: hexQuad n) := fun n =>
    plain_cons.mpr ⟨by decide, plain_cons.mpr ⟨by decide, plain_hexQuad n⟩⟩
  unfold escapeChar
  split_ifs with _ _ _ _ _ _ _ hrange
  iterate 7
    . decide
  . exact hescape _
  . exact plain_append.mpr ⟨hescape _, hescape _⟩
  . rw [plain_cons]
    refine ⟨?_, plain_nil⟩
    simp only [not_or, not_and, not_lt, true_implies] at hrange
    exact hrange

theorem plain_renderString (s : String) : Plain (renderString true s) := by
  unfold renderString
  refine plain_append.mpr ⟨plain_cons.mpr ⟨by decide, ?_⟩, by decide⟩
  intro c hc
  obtain ⟨d, -, hd⟩ := List.mem_flatMap.mp hc
  exact plain_escapeChar d c hd

theorem plain_toDigits (n : ℕ) : Plain (Nat.toDigits 10 n) :=
  plain_digits fun _ hd => Nat.isDigit_of_mem_toDigits (by decide) (by decide) hd

theorem plain_renderInt (i : Int) : Plain (renderInt i) := by
  cases i with
  | ofNat n => exact plain_toDigits n
  | negSucc n => exact plain_cons.mpr ⟨by decide, plain_toDigits _⟩

theorem plain_literal {cs : List Char} (h : FloatLiteral cs) : Plain cs := by
  obtain ⟨sign, n, frac, exp, hsign, hfrac, hexp, -, rfl⟩ := h
  have hsign : Plain sign := by
    rcases hsign with rfl | rfl <;> decide
  have hfrac : Plain frac := by
    rcases hfrac with rfl | ⟨d, ds, hd, hds, rfl⟩
    . exact plain_nil
    . exact plain_cons.mpr ⟨by decide, plain_cons.mpr ⟨printable_of_isDigit hd, plain_digits hds⟩⟩
  have hexp : Plain exp := by
    rcases hexp with rfl | ⟨sign, d, ds, hsign, hd, hds, rfl⟩
    . exact plain_nil
    . refine plain_cons.mpr ⟨by decide, plain_append.mpr ⟨?_, plain_cons.mpr
        ⟨printable_of_isDigit hd, plain_digits hds⟩⟩⟩
      rcases hsign with rfl | rfl | rfl <;> decide
  exact plain_append.mpr
    ⟨hsign, plain_append.mpr ⟨plain_toDigits n, plain_append.mpr ⟨hfrac, hexp⟩⟩⟩

section Render

variable {style : Style} {repr : ℚ → String}

theorem plain_gap (style : Style) : Plain style.gap := by
  unfold Style.gap
  split <;> decide

mutual

theorem plain_render (hascii : style.ensureAscii) (hrepr : Literals repr) (v : PyValue)
    (hv : WellFormed constants v) : Plain (render style repr v) := by
  match v with
  | .none | .bool true | .bool false | .list [] | .dict [] =>
    rw [render]
    decide
  | .int i =>
    rw [render]
    exact plain_renderInt i
  | .float (.finite q) =>
    rw [render, PyFloat.render]
    exact plain_literal (hrepr q hv)
  | .float (.inf false) =>
    rw [render_inf]
    decide
  | .float (.inf true) =>
    rw [render_negInf]
    decide
  | .float .nan =>
    rw [render_nan]
    decide
  | .str s =>
    rw [render, hascii]
    exact plain_renderString s
  | .list (v :: vs) =>
    rw [render]
    exact plain_cons.mpr ⟨by decide,
      plain_append.mpr ⟨plain_render hascii hrepr v hv.1, plain_renderElems hascii hrepr vs hv.2⟩⟩
  | .dict ((k, v) :: fs) =>
    rw [render, hascii]
    exact plain_cons.mpr ⟨by decide, plain_append.mpr ⟨plain_renderString k, plain_cons.mpr
      ⟨by decide, plain_append.mpr ⟨plain_gap style, plain_append.mpr
        ⟨plain_render hascii hrepr v hv.2.1, plain_renderFields hascii hrepr fs hv.2.2⟩⟩⟩⟩⟩

theorem plain_renderElems (hascii : style.ensureAscii) (hrepr : Literals repr) (vs : List PyValue)
    (hvs : WellFormedElems constants vs) : Plain (renderElems style repr vs) := by
  match vs with
  | [] =>
    rw [renderElems]
    decide
  | v :: vs =>
    rw [renderElems]
    exact plain_cons.mpr ⟨by decide, plain_append.mpr ⟨plain_gap style, plain_append.mpr
      ⟨plain_render hascii hrepr v hvs.1, plain_renderElems hascii hrepr vs hvs.2⟩⟩⟩

theorem plain_renderFields (hascii : style.ensureAscii) (hrepr : Literals repr)
    (fs : List (String × PyValue)) (hfs : WellFormedFields constants fs)
    : Plain (renderFields style repr fs) := by
  match fs with
  | [] =>
    rw [renderFields]
    decide
  | (k, v) :: fs =>
    rw [renderFields, hascii]
    exact plain_cons.mpr ⟨by decide, plain_append.mpr ⟨plain_gap style, plain_append.mpr
      ⟨plain_renderString k, plain_cons.mpr ⟨by decide, plain_append.mpr ⟨plain_gap style,
        plain_append.mpr ⟨plain_render hascii hrepr v hfs.1,
          plain_renderFields hascii hrepr fs hfs.2⟩⟩⟩⟩⟩⟩

end

end Render

end PyJson
