import ConstitutionalSwarm.Apcc.CodecBijection

namespace Apcc

open List Json

abbrev Scan.at (depth : Nat) : Scan :=
  ⟨depth, false, false⟩

theorem scan_hexQuad (k n : Nat)
    : (hexQuad n).foldlM Scan.step ⟨k, true, false⟩ = .ok ⟨k, true, false⟩ := by
  have hdigit : ∀ d < 16, Nat.digitChar d ≠ '\\' ∧ Nat.digitChar d ≠ '"' := by decide
  have hstep : ∀ m, Scan.step ⟨k, true, false⟩ (Nat.digitChar (m % 16)) = .ok ⟨k, true, false⟩ := by
    intro m
    obtain ⟨hslash, hquote⟩ := hdigit (m % 16) (Nat.mod_lt _ (by decide))
    simp [Scan.step, hslash, hquote]
  simp [hexQuad, hstep]

theorem scan_escape (k : Nat) (e : Char)
    : ['\\', e].foldlM Scan.step ⟨k, true, false⟩ = .ok ⟨k, true, false⟩ :=
  rfl

theorem scan_escapeChar (k : Nat) (c : Char)
    : (escapeChar false c).foldlM Scan.step ⟨k, true, false⟩ = .ok ⟨k, true, false⟩ := by
  have hunit : ∀ n, ('\\' :: 'u' :: hexQuad n).foldlM Scan.step ⟨k, true, false⟩
      = .ok ⟨k, true, false⟩ := fun n => scan_hexQuad k n
  unfold escapeChar
  split
  . exact scan_escape k _
  . next hquote =>
    split
    . exact scan_escape k _
    . next hslash =>
      iterate 5
        split
        . exact scan_escape k _
      split
      . split
        . exact hunit _
        . rw [foldlM_append, hunit, ok_bind, hunit]
      . simp [Scan.step, hquote, hslash]

theorem scan_renderString (k : Nat) (s : String)
    : (renderString false s).foldlM Scan.step (.at k) = .ok (.at k) := by
  have hbody : ∀ body : List Char,
      (body.flatMap (escapeChar false)).foldlM Scan.step ⟨k, true, false⟩
        = .ok ⟨k, true, false⟩ := by
    intro body
    induction body with
    | nil => rfl
    | cons c body ih => rw [flatMap_cons, foldlM_append, scan_escapeChar, ok_bind, ih]
  simp [renderString, Scan.step, hbody]

variable [Platform]

mutual

theorem scan_render : ∀ {v : Json} {k : Nat}, tree (k + 1) v = .ok () →
    (render false v).foldlM Scan.step (.at k) = .ok (.at k)
  | .null, _, h | .bool _, _, h | .int _, _, h => by simp [tree, bind_eq_ok, fail] at h
  | .str s, k, _ => by
    rw [render]
    exact scan_renderString k s
  | .arr [], k, h => by
    simp only [tree, bind_eq_ok, exists_unit, raiseIf_eq_ok, decide_eq_false_iff_not] at h
    simp [render, Scan.step, h.1]
  | .arr (v :: vs), k, h => by
    simp only [tree, treeElems, bind_eq_ok, exists_unit, raiseIf_eq_ok,
      decide_eq_false_iff_not] at h
    simp [render, Scan.step, h.1, scan_render h.2.1, scan_renderElems h.2.2]
  | .obj [], k, h => by
    simp only [tree, bind_eq_ok, exists_unit, raiseIf_eq_ok, decide_eq_false_iff_not] at h
    simp [render, Scan.step, h.1]
  | .obj ((key, v) :: fs), k, h => by
    simp only [tree, treeFields, bind_eq_ok, exists_unit, raiseIf_eq_ok,
      decide_eq_false_iff_not] at h
    simp [render, Scan.step, h.1, scan_renderString, scan_render h.2.2.1, scan_renderFields h.2.2.2]

theorem scan_renderElems : ∀ {vs : List Json} {k : Nat}, treeElems (k + 2) vs = .ok () →
    (renderElems false vs).foldlM Scan.step (.at (k + 1)) = .ok (.at k)
  | [], _, _ => by simp [renderElems, Scan.step]
  | v :: vs, k, h => by
    simp only [treeElems, bind_eq_ok, exists_unit] at h
    simp [renderElems, Scan.step, scan_render h.1, scan_renderElems h.2]

theorem scan_renderFields : ∀ {fs : Fields} {k : Nat}, treeFields (k + 2) fs = .ok () →
    (renderFields false fs).foldlM Scan.step (.at (k + 1)) = .ok (.at k)
  | [], _, _ => by simp [renderFields, Scan.step]
  | (key, v) :: fs, k, h => by
    simp only [treeFields, bind_eq_ok, exists_unit] at h
    simp [renderFields, Scan.step, scan_renderString, scan_render h.2.1, scan_renderFields h.2.2]

end

variable {n : Nat} {s : String} {c : Char} {cs : List Char}

theorem parse_isOk (hflds : (obj fields).Canonical)
    (h : canonical (.obj fields) = .ok raw) (hlen : raw.length ≤ n)
    : parse raw n = .ok (.obj fields) := by
  obtain ⟨htree, hraw⟩ := (canonical_eq_ok hflds).mp h
  have hlimit : decide (n < raw.length) = false := decide_eq_false (not_lt.mpr hlen)
  have htext : Bytes.decodeUTF8 raw = some ((obj fields).dumps false) := by
    rw [hraw, Bytes.decodeUTF8_encodeUTF8]
  have hread := Json.Hooks.value_render false (.obj fields) (accepts_strictHooks hflds htree)
    ((render false (.obj fields)).length + 1) [] (by omega) (.inl rfl)
  rw [append_nil] at hread
  have hscan : scanDepth (render false (.obj fields)) = .ok (.at 0) := scan_render htree
  have hhead : (render false (.obj fields)).head? = some '\x7b' := by
    cases fields <;> rfl
  simp [parse, hlimit, htext, dumps, hread, hscan, hhead, htree, raiseIf]

theorem decode_eq_ok (hflds : (obj fields).Canonical) (h : canonical (.obj fields) = .ok raw)
    : decode raw schema n = .ok fields' ↔
      fields' = fields ∧ raw.length ≤ n ∧ checkSchema (.obj fields) schema = .ok () ∧
        scalars "" (.obj fields) = .ok () := by
  constructor
  . intro hdec
    obtain ⟨hobject, hschema, hscalars⟩ := decode_canonical hflds h hdec
    exact ⟨(obj.inj hobject).symm, length_le_of_decode hdec, hschema, hscalars⟩
  . rintro ⟨rfl, hlen, hschema, hscalars⟩
    simp [decode, parse_isOk hflds h hlen, fieldsOf, h, hschema, hscalars, raiseIf]

omit [Platform]

def isPlainChar (c : Char) : Bool :=
  0x20 ≤ c.toNat && c.toNat < 0x7f && c ≠ '"' && c ≠ '\\'

def isPlain (s : String) : Bool :=
  s.toList.all isPlainChar

theorem isAscii_of_isPlain (h : isPlain s) : isAscii s := by
  simp only [isPlain, isPlainChar, isAscii, all_eq_true, Bool.and_eq_true, decide_eq_true_eq] at h ⊢
  intro c hc
  have := h c hc
  omega

theorem escapeChar_of_isPlainChar (h : isPlainChar c)
    : escapeChar false c = [c] := by
  simp only [isPlainChar, Bool.and_eq_true, decide_eq_true_eq, ne_eq] at h
  obtain ⟨⟨⟨hlow, hhigh⟩, hquote⟩, hslash⟩ := h
  have hne : ∀ d : Char, d.toNat < 0x20 → c ≠ d := by
    rintro d hd rfl
    omega
  unfold escapeChar
  rw [if_neg hquote, if_neg hslash, if_neg (hne _ (by decide)), if_neg (hne _ (by decide)),
    if_neg (hne _ (by decide)), if_neg (hne _ (by decide)), if_neg (hne _ (by decide)),
    if_neg (by simp; omega)]

theorem renderString_of_isPlain (h : isPlain s)
    : renderString false s = '"' :: s.toList ++ ['"'] := by
  have hbody : ∀ body : List Char, body.all isPlainChar = true →
      body.flatMap (escapeChar false) = body := by
    intro body hplain
    induction body with
    | nil => rfl
    | cons c body ih =>
      rw [all_cons, Bool.and_eq_true] at hplain
      rw [flatMap_cons, escapeChar_of_isPlainChar hplain.1, ih hplain.2, singleton_append]
  rw [renderString, hbody s.toList h]

mutual

def isPlainValue : Json → Bool
  | .str s => isPlain s
  | .arr vs => isPlainElems vs
  | .obj fs => isPlainFields fs
  | .null => true
  | .bool _ | .int _ => false

def isPlainElems : List Json → Bool
  | [] => true
  | v :: vs => isPlainValue v && isPlainElems vs

def isPlainFields : Fields → Bool
  | [] => true
  | (k, v) :: fs => isPlain k && isPlainValue v && isPlainFields fs

end

mutual

def textLength : Json → Nat
  | .str s => s.length + 2
  | .arr [] => 2
  | .arr (v :: vs) => textLength v + elemsLength vs + 1
  | .obj [] => 2
  | .obj ((k, v) :: fs) => k.length + textLength v + fieldsLength fs + 4
  | .null => 4
  | .bool _ | .int _ => 0

def elemsLength : List Json → Nat
  | [] => 1
  | v :: vs => textLength v + elemsLength vs + 1

def fieldsLength : Fields → Nat
  | [] => 1
  | (k, v) :: fs => k.length + textLength v + fieldsLength fs + 4

end

def AsciiOfLength (cs : List Char) (n : Nat) : Prop :=
  (∀ c ∈ cs, c.toNat < 128) ∧ cs.length = n

theorem AsciiOfLength.cons (h : AsciiOfLength cs n) (hc : c.toNat < 128)
    : AsciiOfLength (c :: cs) (n + 1) :=
  ⟨forall_mem_cons.mpr ⟨hc, h.1⟩, congrArg Nat.succ h.2⟩

theorem AsciiOfLength.append (h : AsciiOfLength cs m)
    (h' : AsciiOfLength ds n) : AsciiOfLength (cs ++ ds) (m + n) :=
  ⟨forall_mem_append.mpr ⟨h.1, h'.1⟩, by rw [length_append, h.2, h'.2]⟩

theorem asciiOfLength_renderString (h : isPlain s)
    : AsciiOfLength (renderString false s) (s.length + 2) := by
  have hascii := isAscii_of_isPlain h
  simp only [isAscii, all_eq_true, decide_eq_true_eq] at hascii
  rw [renderString_of_isPlain h]
  have hbody : AsciiOfLength s.toList s.length := ⟨hascii, String.length_toList⟩
  have hquote : AsciiOfLength ['"'] 1 := ⟨by simp, rfl⟩
  exact (hbody.append hquote).cons (by simp)

mutual

theorem asciiOfLength_render : ∀ {v : Json}, isPlainValue v = true →
    AsciiOfLength (render false v) (textLength v)
  | .bool _, h | .int _, h => by simp [isPlainValue] at h
  | .null, _ => ⟨by simp [render], rfl⟩
  | .str _, h => by
    rw [isPlainValue] at h
    rw [render, textLength]
    exact asciiOfLength_renderString h
  | .arr [], _ => ⟨by simp [render], rfl⟩
  | .arr (_ :: _), h => by
    simp only [isPlainValue, isPlainElems, Bool.and_eq_true] at h
    rw [render, textLength]
    exact ((asciiOfLength_render h.1).append (asciiOfLength_renderElems h.2)).cons (by simp)
  | .obj [], _ => ⟨by simp [render], rfl⟩
  | .obj ((k, v) :: fs), h => by
    simp only [isPlainValue, isPlainFields, Bool.and_eq_true] at h
    have hflds := (asciiOfLength_render h.1.2).append (asciiOfLength_renderFields h.2)
    have hentry := (asciiOfLength_renderString h.1.1).append
      (hflds.cons (show ':'.toNat < 128 by simp))
    have htext := hentry.cons (show '\x7b'.toNat < 128 by simp)
    rw [render, textLength]
    convert htext using 1
    omega

theorem asciiOfLength_renderElems : ∀ {vs : List Json}, isPlainElems vs = true →
    AsciiOfLength (renderElems false vs) (elemsLength vs)
  | [], _ => ⟨by simp [renderElems], rfl⟩
  | _ :: _, h => by
    simp only [isPlainElems, Bool.and_eq_true] at h
    rw [renderElems, elemsLength]
    exact ((asciiOfLength_render h.1).append (asciiOfLength_renderElems h.2)).cons (by simp)

theorem asciiOfLength_renderFields : ∀ {fs : Fields}, isPlainFields fs = true →
    AsciiOfLength (renderFields false fs) (fieldsLength fs)
  | [], _ => ⟨by simp [renderFields], rfl⟩
  | (k, v) :: fs, h => by
    simp only [isPlainFields, Bool.and_eq_true] at h
    have hflds := (asciiOfLength_render h.1.2).append (asciiOfLength_renderFields h.2)
    have hentry := (asciiOfLength_renderString h.1.1).append
      (hflds.cons (show ':'.toNat < 128 by simp))
    have htext := hentry.cons (show ','.toNat < 128 by simp)
    rw [renderFields, fieldsLength]
    convert htext using 1
    omega

end

theorem length_encodeUTF8_ofList (h : ∀ c ∈ cs, c.toNat < 128)
    : (String.ofList cs).encodeUTF8.length = cs.length := by
  rw [String.length_encodeUTF8]
  induction cs with
  | nil => rfl
  | cons c cs ih =>
    obtain ⟨hc, hcs⟩ := forall_mem_cons.mp h
    have hsize : c.utf8Size = 1 := Char.utf8Size_eq_one_iff.mpr (by
      rw [UInt32.le_iff_toNat_le]
      exact Nat.le_of_lt_succ hc)
    rw [String.ofList_cons, String.utf8ByteSize_append, String.utf8ByteSize_singleton, ih hcs,
      hsize, length_cons, Nat.add_comm]

theorem utf8ByteSize_of_isPlain (h : isPlain s)
    : s.utf8ByteSize = s.length := by
  have hascii := isAscii_of_isPlain h
  simp only [isAscii, all_eq_true, decide_eq_true_eq] at hascii
  have hlen := length_encodeUTF8_ofList hascii
  rwa [String.ofList_toList, String.length_encodeUTF8, String.length_toList] at hlen

theorem length_dumps_of_isPlainValue (h : isPlainValue v)
    : (v.dumps false).encodeUTF8.length = textLength v := by
  obtain ⟨hascii, hlen⟩ := asciiOfLength_render h
  rw [dumps, length_encodeUTF8_ofList hascii, hlen]

theorem length_encode (value : Bytes)
    : (Base64.encode value).length = (4 * value.length + 2) / 3 := by
  rw [Base64.encode, ← String.length_toList, String.toList_ofList, Base64.length_encodeBytes]

theorem isPlain_encode (value : Bytes) : isPlain (Base64.encode value) := by
  have hdigit : ∀ n < 64, isPlainChar (Base64.digit n) := by decide
  rw [isPlain, Base64.encode, String.toList_ofList]
  fun_induction Base64.encodeBytes value with
  | case1 => rfl
  | case2 a =>
    have ha := a.toNat_lt
    simp [hdigit (a.toNat / 4) (by omega), hdigit (a.toNat % 4 * 16) (by omega)]
  | case3 a b =>
    have ha := a.toNat_lt
    have hb := b.toNat_lt
    simp [hdigit (a.toNat / 4) (by omega), hdigit (a.toNat % 4 * 16 + b.toNat / 16) (by omega),
      hdigit (b.toNat % 16 * 4) (by omega)]
  | case4 a b c rest ih =>
    have ha := a.toNat_lt
    have hb := b.toNat_lt
    have hc := c.toNat_lt
    simp [hdigit (a.toNat / 4) (by omega), hdigit (a.toNat % 4 * 16 + b.toNat / 16) (by omega),
      hdigit (b.toNat % 16 * 4 + c.toNat / 64) (by omega), hdigit (c.toNat % 64) (by omega), ih]

theorem isPlainChar_of_isAlphanum (h : c.isAlphanum) : isPlainChar c := by
  have hquote : c ≠ '"' := by
    rintro rfl
    simp [Char.isAlphanum] at h
  have hslash : c ≠ '\\' := by
    rintro rfl
    simp [Char.isAlphanum] at h
  have hrange : 0x20 ≤ c.toNat ∧ c.toNat < 0x7f := by
    delta Char.isAlphanum Char.isAlpha Char.isUpper Char.isLower Char.isDigit at h
    simp only [Bool.or_eq_true, Bool.and_eq_true, decide_eq_true_eq, ge_iff_le,
      UInt32.le_iff_toNat_le] at h
    have hbounds : 'A'.val.toNat = 65 ∧ 'Z'.val.toNat = 90 ∧ 'a'.val.toNat = 97 ∧
        'z'.val.toNat = 122 ∧ '0'.val.toNat = 48 ∧ '9'.val.toNat = 57 := by decide
    change 0x20 ≤ c.val.toNat ∧ c.val.toNat < 0x7f
    omega
  simp [isPlainChar, hquote, hslash, hrange]

theorem isPlain_of_isIdentifier (h : isIdentifier s) : isPlain s := by
  unfold isIdentifier isWord at h
  unfold isPlain
  split at h
  . simp at h
  . next c rest heq =>
    simp only [Bool.and_eq_true, decide_eq_true_eq] at h
    obtain ⟨⟨hhead, htail⟩, -⟩ := h
    rw [heq, all_cons, isPlainChar_of_isAlphanum hhead, Bool.true_and]
    rw [all_eq_true] at htail ⊢
    intro d hd
    have hd := htail d hd
    simp only [isNameChar, Bool.or_eq_true, decide_eq_true_eq] at hd
    rcases hd with ((((hd | rfl) | rfl) | rfl) | rfl) | rfl
    . exact isPlainChar_of_isAlphanum hd
    all_goals decide

end Apcc
