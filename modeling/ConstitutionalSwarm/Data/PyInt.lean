import Mathlib.Data.String.Basic

namespace PyInt

open List

def decimalZeros : List Nat :=
  [0x30, 0x660, 0x6f0, 0x7c0, 0x966, 0x9e6, 0xa66, 0xae6, 0xb66, 0xbe6, 0xc66, 0xce6, 0xd66, 0xde6,
    0xe50, 0xed0, 0xf20, 0x1040, 0x1090, 0x17e0, 0x1810, 0x1946, 0x19d0, 0x1a80, 0x1a90, 0x1b50,
    0x1bb0, 0x1c40, 0x1c50, 0xa620, 0xa8d0, 0xa900, 0xa9d0, 0xa9f0, 0xaa50, 0xabf0, 0xff10,
    0x104a0, 0x10d30, 0x11066, 0x110f0, 0x11136, 0x111d0, 0x112f0, 0x11450, 0x114d0, 0x11650,
    0x116c0, 0x11730, 0x118e0, 0x11950, 0x11c50, 0x11d50, 0x11da0, 0x16a60, 0x16ac0, 0x16b50,
    0x1d7ce, 0x1d7d8, 0x1d7e2, 0x1d7ec, 0x1d7f6, 0x1e140, 0x1e2f0, 0x1e950, 0x1fbf0]

def decimalValue (c : Char) : Option Nat :=
  if c.isDigit then some (c.toNat - '0'.toNat)
  else (decimalZeros.find? fun z => z ≤ c.toNat && c.toNat < z + 10).map (c.toNat - ·)

def isSpace (c : Char) : Bool :=
  (0x9 ≤ c.toNat && c.toNat ≤ 0xd) || (0x1c ≤ c.toNat && c.toNat ≤ 0x20) ||
    (0x2000 ≤ c.toNat && c.toNat ≤ 0x200a) ||
    [0x85, 0xa0, 0x1680, 0x2028, 0x2029, 0x202f, 0x205f, 0x3000].contains c.toNat

def strip (cs : List Char) : List Char :=
  ((cs.dropWhile isSpace).reverse.dropWhile isSpace).reverse

def natural (acc : Nat) (digit : Bool) : List Char → Option Nat
  | [] => if digit then some acc else none
  | c :: rest =>
    if c = '_' then if digit then natural acc false rest else none
    else
      match decimalValue c with
      | some d => natural (10 * acc + d) true rest
      | none => none

/-- `sys.get_int_max_str_digits()`: `int(text)` and `str(value)` raise beyond it. -/
def maxStrDigits : Nat :=
  4300

def magnitude (cs : List Char) : Option Nat :=
  if (cs.filter (· ≠ '_')).length ≤ maxStrDigits then natural 0 false cs else none

def int? (text : String) : Option Int :=
  match strip text.toList with
  | '-' :: rest => (magnitude rest).map fun n => -(n : Int)
  | '+' :: rest => (magnitude rest).map fun n => (n : Int)
  | cs => (magnitude cs).map fun n => (n : Int)

def fits (value : Int) : Bool :=
  (Nat.toDigits 10 value.natAbs).length ≤ maxStrDigits

def isCanonical (text : String) : Bool :=
  match text.toList with
  | [] => false
  | ['0'] => true
  | c :: rest => c != '0' && (c :: rest).all Char.isDigit

theorem not_isSpace_of_isDigit {c : Char} (h : c.isDigit) : isSpace c = false := by
  simp only [Char.isDigit, ge_iff_le, Bool.and_eq_true, decide_eq_true_eq] at h
  have hlow : 48 ≤ c.toNat := h.1
  have hhigh : c.toNat ≤ 57 := h.2
  simp only [isSpace, Bool.or_eq_false_iff, Bool.and_eq_false_iff, decide_eq_false_iff_not,
    contains_eq_mem, mem_cons, not_mem_nil, or_false, not_or]
  omega

theorem ne_of_isDigit {c d : Char} (h : c.isDigit) (hd : d.isDigit = false) : c ≠ d := by
  rintro rfl
  simp [h] at hd

theorem natural_of_isDigit {ds : List Char} (h : ∀ d ∈ ds, d.isDigit) (acc : Nat)
    : natural acc true ds = some (Nat.ofDigitChars 10 ds acc) := by
  induction ds generalizing acc with
  | nil => simp [natural]
  | cons d ds ih =>
    have hd := h d mem_cons_self
    rw [natural, if_neg (ne_of_isDigit hd (by decide)), decimalValue, if_pos hd,
      Nat.ofDigitChars_cons]
    exact ih (fun e he => h e (mem_cons_of_mem _ he)) _

theorem dropWhile_isSpace_of_isDigit {ds : List Char} (h : ∀ d ∈ ds, d.isDigit)
    : ds.dropWhile isSpace = ds := by
  cases ds with
  | nil => rfl
  | cons d ds => simp [dropWhile, not_isSpace_of_isDigit (h d mem_cons_self)]

theorem strip_of_isDigit {ds : List Char} (h : ∀ d ∈ ds, d.isDigit) : strip ds = ds := by
  rw [strip, dropWhile_isSpace_of_isDigit h, dropWhile_isSpace_of_isDigit (by simpa using h),
    reverse_reverse]

theorem magnitude_of_isDigit {ds : List Char} (hne : ds ≠ []) (h : ∀ d ∈ ds, d.isDigit)
    : magnitude ds =
      if ds.length ≤ maxStrDigits then some (Nat.ofDigitChars 10 ds 0) else none := by
  have hunderscore : ds.filter (· ≠ '_') = ds :=
    filter_eq_self.mpr fun d hd => by simp [ne_of_isDigit (h d hd)]
  rw [magnitude, hunderscore]
  cases ds with
  | nil => exact absurd rfl hne
  | cons d ds =>
    rw [← natural_of_isDigit h 0, natural, natural]
    simp [ne_of_isDigit (h d mem_cons_self) (show ('_').isDigit = false by decide)]

theorem int?_of_isDigit {text : String} (hne : text.toList ≠ []) (h : ∀ d ∈ text.toList, d.isDigit)
    : int? text = if text.toList.length ≤ maxStrDigits then
        some ((Nat.ofDigitChars 10 text.toList 0 : Nat) : Int) else none := by
  unfold int?
  rw [strip_of_isDigit h]
  generalize hds : text.toList = ds at *
  cases ds with
  | nil => exact absurd rfl hne
  | cons d ds =>
    have hd := h d mem_cons_self
    split
    . next heq => simp [ne_of_isDigit hd (show ('-').isDigit = false by decide)] at heq
    . next heq => simp [ne_of_isDigit hd (show ('+').isDigit = false by decide)] at heq
    . rw [magnitude_of_isDigit hne h]
      split <;> rfl

theorem isDigit_of_mem_toString {n : Nat} : ∀ d ∈ (toString n).toList, d.isDigit := by
  intro d hd
  rw [Nat.toString_eq_ofList_toDigits, String.toList_ofList] at hd
  exact Nat.isDigit_of_mem_toDigits (by decide) (by decide) hd

theorem toList_toString (n : Nat) : (toString n).toList = Nat.toDigits 10 n := by
  rw [Nat.toString_eq_ofList_toDigits, String.toList_ofList]

theorem toString_injective : Function.Injective (toString : Nat → String) := by
  intro n m h
  have hdigits := congrArg (fun s => Nat.ofDigitChars 10 s.toList 0) h
  simpa only [toList_toString, Nat.ofDigitChars_ten_toDigits] using hdigits

theorem int?_toString (n : Nat) : int? (toString n) = if fits n then some (n : Int) else none := by
  rw [int?_of_isDigit (by rw [toList_toString]; exact Nat.toDigits_ne_nil) isDigit_of_mem_toString,
    toList_toString, Nat.ofDigitChars_ten_toDigits]
  simp [fits]

theorem eq_of_int?_toString {n : Nat} {i : Int} (h : int? (toString n) = some i) : i = n := by
  rw [int?_toString] at h
  split at h
  . exact (Option.some.inj h).symm
  . cases h

theorem toDigits_ofDigitChars {ds : List Char} (h : ∀ d ∈ ds, d.isDigit) {acc : Nat}
    (hacc : 0 < acc)
    : Nat.toDigits 10 (Nat.ofDigitChars 10 ds acc) = Nat.toDigits 10 acc ++ ds := by
  induction ds generalizing acc with
  | nil => simp
  | cons d ds ih =>
    have hd := h d mem_cons_self
    have hlt : d.toNat - '0'.toNat < 10 ∧ Nat.digitChar (d.toNat - '0'.toNat) = d := by
      simp only [Char.isDigit, ge_iff_le, Bool.and_eq_true, decide_eq_true_eq] at hd
      have hlow : 48 ≤ d.toNat := hd.1
      have hhigh : d.toNat ≤ 57 := hd.2
      refine ⟨by simp only [Char.reduceToNat]; omega, ?_⟩
      have hchar : ∀ k < 10, Nat.digitChar k = Char.ofNat (48 + k) := by decide
      rw [hchar _ (by simp only [Char.reduceToNat]; omega)]
      simp only [Char.reduceToNat]
      rw [show 48 + (d.toNat - 48) = d.toNat by omega, Char.ofNat_toNat]
    rw [Nat.ofDigitChars_cons, ih (fun e he => h e (mem_cons_of_mem _ he)) (by omega),
      ← Nat.toDigits_append_toDigits (by decide) hacc hlt.1, Nat.toDigits_of_lt_base hlt.1, hlt.2,
      append_assoc]
    rfl

theorem eq_toString_of_isCanonical {text : String} (h : isCanonical text)
    : ∃ n : Nat, text = toString n := by
  unfold isCanonical at h
  split at h
  . simp at h
  . next heq => exact ⟨0, String.toList_inj.mp (by rw [heq]; rfl)⟩
  . next c rest hne heq =>
    simp only [Bool.and_eq_true, bne_iff_ne, ne_eq, all_eq_true] at h
    have hc := h.2 c mem_cons_self
    have hrest : ∀ d ∈ rest, d.isDigit = true := fun d hd => h.2 d (mem_cons_of_mem _ hd)
    simp only [Char.isDigit, ge_iff_le, Bool.and_eq_true, decide_eq_true_eq] at hc
    have hlow : 48 ≤ c.toNat := hc.1
    have hhigh : c.toNat ≤ 57 := hc.2
    have hpos : 0 < c.toNat - 48 := by
      rcases Nat.lt_or_ge 48 c.toNat with hlt | hge
      . omega
      . exact absurd (by rw [← Char.ofNat_toNat c, show c.toNat = 48 by omega]) h.1
    have hchar : ∀ k < 10, Nat.digitChar k = Char.ofNat (48 + k) := by decide
    refine ⟨Nat.ofDigitChars 10 rest (c.toNat - 48), String.toList_inj.mp ?_⟩
    rw [heq, Nat.toString_eq_ofList_toDigits, String.toList_ofList,
      toDigits_ofDigitChars hrest hpos, Nat.toDigits_of_lt_base (by omega), hchar _ (by omega),
      show 48 + (c.toNat - 48) = c.toNat by omega, Char.ofNat_toNat]
    rfl

end PyInt
