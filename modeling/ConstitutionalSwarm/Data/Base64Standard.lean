import ConstitutionalSwarm.Data.Base64

namespace Base64

def toStandard (c : Char) : Char :=
  if c = '-' then '+' else if c = '_' then '/' else c

def ofStandard (c : Char) : Char :=
  if c = '+' then '-' else if c = '/' then '_' else if c = '-' ∨ c = '_' then '=' else c

def padding (length : ℕ) : List Char :=
  List.replicate ((4 - length % 4) % 4) '='

def b64encode (value : Bytes) : String :=
  String.ofList ((encodeBytes value).map toStandard ++ padding (encodeBytes value).length)

def b64decode (value : String) : Option Bytes :=
  let body := value.toList.takeWhile (· ≠ '=')
  if value.toList = body ++ padding body.length then decodeChars (body.map ofStandard) else none

theorem digit_standard
    : ∀ n < 64, ofStandard (toStandard (digit n)) = digit n ∧ toStandard (digit n) ≠ '=' := by
  decide

theorem exists_digit_of_mem {value : Bytes} {c : Char} (h : c ∈ encodeBytes value)
    : ∃ n < 64, c = digit n := by
  fun_induction encodeBytes value with
  | case1 => cases h
  | case2 a =>
    have ha := a.toNat_lt
    simp only [List.mem_cons, List.not_mem_nil, or_false] at h
    rcases h with rfl | rfl
    . exact ⟨_, by omega, rfl⟩
    . exact ⟨_, by omega, rfl⟩
  | case3 a b =>
    have ha := a.toNat_lt
    have hb := b.toNat_lt
    simp only [List.mem_cons, List.not_mem_nil, or_false] at h
    rcases h with rfl | rfl | rfl
    . exact ⟨_, by omega, rfl⟩
    . exact ⟨_, by omega, rfl⟩
    . exact ⟨_, by omega, rfl⟩
  | case4 a b c rest ih =>
    have ha := a.toNat_lt
    have hb := b.toNat_lt
    have hc := c.toNat_lt
    simp only [List.mem_cons] at h
    rcases h with rfl | rfl | rfl | rfl | h
    . exact ⟨_, by omega, rfl⟩
    . exact ⟨_, by omega, rfl⟩
    . exact ⟨_, by omega, rfl⟩
    . exact ⟨_, by omega, rfl⟩
    . exact ih h

theorem takeWhile_ne_append_padding {body : List Char} (h : ∀ c ∈ body, c ≠ '=') (n : ℕ)
    : (body ++ padding n).takeWhile (· ≠ '=') = body := by
  have hpadding : (padding n).takeWhile (· ≠ '=') = [] := by
    unfold padding
    cases (4 - n % 4) % 4 with
    | zero => rfl
    | succ k => rfl
  rw [List.takeWhile_append_of_pos (by simpa using h), hpadding, List.append_nil]

theorem b64decode_b64encode (value : Bytes) : b64decode (b64encode value) = some value := by
  have hne : ∀ c ∈ (encodeBytes value).map toStandard, c ≠ '=' := by
    intro c hc
    obtain ⟨_, hd, rfl⟩ := List.mem_map.mp hc
    obtain ⟨n, hn, rfl⟩ := exists_digit_of_mem hd
    exact (digit_standard n hn).2
  have hback : ((encodeBytes value).map toStandard).map ofStandard = encodeBytes value := by
    rw [List.map_map]
    refine (List.map_congr_left ?_).trans (List.map_id _)
    intro c hc
    obtain ⟨n, hn, rfl⟩ := exists_digit_of_mem hc
    exact (digit_standard n hn).1
  unfold b64decode b64encode
  simp only [String.toList_ofList, takeWhile_ne_append_padding hne, List.length_map, if_true,
    hback, decodeChars_encodeBytes]

theorem b64encode_ne_empty {value : Bytes} (h : value ≠ []) : b64encode value ≠ "" := by
  intro hempty
  have hback := b64decode_b64encode value
  rw [hempty] at hback
  exact h (Option.some.inj hback).symm

end Base64
