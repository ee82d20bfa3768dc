import Mathlib.Data.UInt

abbrev Bytes := List UInt8

instance : LawfulBEq Bytes := inferInstance

def String.encodeUTF8 (s : String) : Bytes :=
  s.toUTF8.data.toList

def Bytes.decodeUTF8 (raw : Bytes) : Option String :=
  String.fromUTF8? ⟨raw.toArray⟩

theorem Bytes.decodeUTF8_encodeUTF8 (s : String) : Bytes.decodeUTF8 s.encodeUTF8 = some s := by
  have hraw : (⟨s.encodeUTF8.toArray⟩ : ByteArray) = s.toByteArray := by
    simp [String.encodeUTF8]
  unfold Bytes.decodeUTF8 String.fromUTF8?
  rw [hraw, dif_pos s.isValidUTF8]
  rfl

theorem String.encodeUTF8_injective : Function.Injective String.encodeUTF8 := by
  intro s t h
  have hs := Bytes.decodeUTF8_encodeUTF8 s
  rw [h, Bytes.decodeUTF8_encodeUTF8] at hs
  exact (Option.some.inj hs).symm

theorem String.encodeUTF8_append (s t : String)
    : (s ++ t).encodeUTF8 = s.encodeUTF8 ++ t.encodeUTF8 := by
  simp [String.encodeUTF8]

theorem String.length_encodeUTF8 (s : String) : s.encodeUTF8.length = s.utf8ByteSize := by
  rw [String.encodeUTF8, Array.length_toList]
  rfl

namespace Base64

open Option

def digit (n : Nat) : Char :=
  if n < 26 then Char.ofNat ('A'.toNat + n)
  else if n < 52 then Char.ofNat ('a'.toNat + (n - 26))
  else if n < 62 then Char.ofNat ('0'.toNat + (n - 52))
  else if n = 62 then '-'
  else '_'

def digitVal (c : Char) : Option Nat :=
  if 'A' ≤ c ∧ c ≤ 'Z' then some (c.toNat - 'A'.toNat)
  else if 'a' ≤ c ∧ c ≤ 'z' then some (c.toNat - 'a'.toNat + 26)
  else if '0' ≤ c ∧ c ≤ '9' then some (c.toNat - '0'.toNat + 52)
  else if c = '-' then some 62
  else if c = '_' then some 63
  else none

def encodeBytes : Bytes → List Char
  | [] => []
  | [a] => [digit (a.toNat / 4), digit (a.toNat % 4 * 16)]
  | [a, b] =>
    [digit (a.toNat / 4), digit (a.toNat % 4 * 16 + b.toNat / 16), digit (b.toNat % 16 * 4)]
  | a :: b :: c :: rest =>
    digit (a.toNat / 4) :: digit (a.toNat % 4 * 16 + b.toNat / 16) ::
      digit (b.toNat % 16 * 4 + c.toNat / 64) :: digit (c.toNat % 64) :: encodeBytes rest

def decodeChars : List Char → Option Bytes
  | [] => some []
  | [_] => none
  | [a, b] => do
    let a ← digitVal a
    let b ← digitVal b
    return [UInt8.ofNat (a * 4 + b / 16)]
  | [a, b, c] => do
    let a ← digitVal a
    let b ← digitVal b
    let c ← digitVal c
    return [UInt8.ofNat (a * 4 + b / 16), UInt8.ofNat (b % 16 * 16 + c / 4)]
  | a :: b :: c :: d :: rest => do
    let a ← digitVal a
    let b ← digitVal b
    let c ← digitVal c
    let d ← digitVal d
    let tail ← decodeChars rest
    return UInt8.ofNat (a * 4 + b / 16) :: UInt8.ofNat (b % 16 * 16 + c / 4) ::
      UInt8.ofNat (c % 4 * 64 + d) :: tail

variable (value : Bytes)

def encode : String :=
  String.ofList (encodeBytes value)

def decode (value : String) : Option Bytes :=
  match decodeChars value.toList with
  | some decoded => if encode decoded = value then some decoded else none
  | none => none

theorem digitVal_digit : ∀ n < 64, digitVal (digit n) = some n := by
  decide

theorem decodeChars_encodeBytes : decodeChars (encodeBytes value) = some value := by
  fun_induction encodeBytes value with
  | case1 => rfl
  | case2 a =>
    have ha := a.toNat_lt
    simp only [decodeChars, digitVal_digit _ (show a.toNat / 4 < 64 by omega),
      digitVal_digit _ (show a.toNat % 4 * 16 < 64 by omega), pure_def, bind_eq_bind,
      bind_some, some.injEq, List.cons.injEq, and_true]
    rw [show a.toNat / 4 * 4 + a.toNat % 4 * 16 / 16 = a.toNat by omega, UInt8.ofNat_toNat]
  | case3 a b =>
    have ha := a.toNat_lt
    have hb := b.toNat_lt
    simp only [decodeChars, digitVal_digit _ (show a.toNat / 4 < 64 by omega),
      digitVal_digit _ (show a.toNat % 4 * 16 + b.toNat / 16 < 64 by omega),
      digitVal_digit _ (show b.toNat % 16 * 4 < 64 by omega), pure_def, bind_eq_bind,
      bind_some, some.injEq, List.cons.injEq, and_true]
    rw [show a.toNat / 4 * 4 + (a.toNat % 4 * 16 + b.toNat / 16) / 16 = a.toNat by omega,
      show (a.toNat % 4 * 16 + b.toNat / 16) % 16 * 16 + b.toNat % 16 * 4 / 4 = b.toNat by omega]
    simp
  | case4 a b c rest ih =>
    have ha := a.toNat_lt
    have hb := b.toNat_lt
    have hc := c.toNat_lt
    simp only [decodeChars, digitVal_digit _ (show a.toNat / 4 < 64 by omega),
      digitVal_digit _ (show a.toNat % 4 * 16 + b.toNat / 16 < 64 by omega),
      digitVal_digit _ (show b.toNat % 16 * 4 + c.toNat / 64 < 64 by omega),
      digitVal_digit _ (show c.toNat % 64 < 64 by omega), ih, pure_def, bind_eq_bind,
      bind_some, some.injEq, List.cons.injEq, and_true]
    rw [show a.toNat / 4 * 4 + (a.toNat % 4 * 16 + b.toNat / 16) / 16 = a.toNat by omega,
      show (a.toNat % 4 * 16 + b.toNat / 16) % 16 * 16 + (b.toNat % 16 * 4 + c.toNat / 64) / 4
        = b.toNat by omega,
      show (b.toNat % 16 * 4 + c.toNat / 64) % 4 * 64 + c.toNat % 64 = c.toNat by omega]
    simp

@[simp]
theorem decode_encode : decode (encode value) = some value := by
  simp [decode, encode, String.toList_ofList, decodeChars_encodeBytes]

theorem encode_of_decode {value : String} {dec : Bytes} (h : decode value = some dec)
    : encode dec = value := by
  unfold decode at h
  split at h
  . split at h
    . next heq => rw [← some.inj h, heq]
    . simp at h
  . simp at h

theorem length_encodeBytes : (encodeBytes value).length = (4 * value.length + 2) / 3 := by
  fun_induction encodeBytes value with
  | case1 => rfl
  | case2 a => simp
  | case3 a b => simp
  | case4 a b c rest ih =>
    simp only [List.length_cons, ih]
    omega

end Base64
