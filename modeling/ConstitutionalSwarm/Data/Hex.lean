import ConstitutionalSwarm.Data.Base64

namespace Hex

def digit (n : Nat) : Char :=
  if n < 10 then Char.ofNat ('0'.toNat + n) else Char.ofNat ('a'.toNat + (n - 10))

def digitVal (c : Char) : Option Nat :=
  if '0' ≤ c ∧ c ≤ '9' then some (c.toNat - '0'.toNat)
  else if 'a' ≤ c ∧ c ≤ 'f' then some (c.toNat - 'a'.toNat + 10)
  else if 'A' ≤ c ∧ c ≤ 'F' then some (c.toNat - 'A'.toNat + 10)
  else none

def encodeByte (b : UInt8) : List Char :=
  [digit (b.toNat / 16), digit (b.toNat % 16)]

def encode (raw : Bytes) : String :=
  String.ofList (raw.flatMap encodeByte)

def isBlank (c : Char) : Bool :=
  c = ' ' || c = '\t' || c = '\n' || c = '\r' || c = '\x0b' || c = '\x0c'

def decodeChars : List Char → Option Bytes
  | [] => some []
  | [c] => if isBlank c then some [] else none
  | a :: b :: rest =>
    if isBlank a then decodeChars (b :: rest)
    else do
      let high ← digitVal a
      let low ← digitVal b
      let tail ← decodeChars rest
      return UInt8.ofNat (high * 16 + low) :: tail

def decode (text : String) : Option Bytes :=
  decodeChars text.toList

def isLower (c : Char) : Bool :=
  ('0' ≤ c && c ≤ '9') || ('a' ≤ c && c ≤ 'f')

def isCanonical (length : Nat) (text : String) : Bool :=
  text.toList.length = length && text.toList.all isLower

theorem digit_spec
    : ∀ n < 16, digitVal (digit n) = some n ∧ isBlank (digit n) = false ∧
      isLower (digit n) := by
  decide

theorem decodeChars_flatMap_encodeByte (raw : Bytes)
    : decodeChars (raw.flatMap encodeByte) = some raw := by
  induction raw with
  | nil => rfl
  | cons b raw ih =>
    have hb := b.toNat_lt
    obtain ⟨hhigh, hblank, -⟩ := digit_spec (b.toNat / 16) (by omega)
    obtain ⟨hlow, -⟩ := digit_spec (b.toNat % 16) (by omega)
    have hbyte : b.toNat / 16 * 16 + b.toNat % 16 = b.toNat := by omega
    simp only [List.flatMap_cons, encodeByte, List.cons_append, List.nil_append, decodeChars,
      hblank, Bool.false_eq_true, if_false, hhigh, hlow, ih, Option.bind_eq_bind,
      Option.bind_some, hbyte, UInt8.ofNat_toNat, pure]

@[simp]
theorem decode_encode (raw : Bytes) : decode (encode raw) = some raw := by
  rw [decode, encode, String.toList_ofList, decodeChars_flatMap_encodeByte]

theorem encode_injective : Function.Injective encode := by
  intro a b h
  have ha := decode_encode a
  rw [h, decode_encode] at ha
  exact (Option.some.inj ha).symm

theorem isCanonical_encode {raw : Bytes} {length : Nat} (h : 2 * raw.length = length)
    : isCanonical length (encode raw) := by
  have hlen : (raw.flatMap encodeByte).length = 2 * raw.length := by
    induction raw generalizing length with
    | nil => rfl
    | cons b raw ih =>
      rw [List.flatMap_cons, List.length_append, ih rfl]
      simp only [encodeByte, List.length_cons, List.length_nil]
      omega
  have hlower : ∀ c ∈ raw.flatMap encodeByte, isLower c := by
    intro c hc
    obtain ⟨b, -, hc⟩ := List.mem_flatMap.mp hc
    have hb := b.toNat_lt
    rcases List.mem_pair.mp hc with rfl | rfl
    . exact (digit_spec _ (by omega)).2.2
    . exact (digit_spec _ (by omega)).2.2
  simp only [isCanonical, encode, String.toList_ofList, hlen, h, decide_true, Bool.true_and,
    List.all_eq_true]
  exact hlower

theorem length_of_isCanonical {text : String} {length : Nat} (h : isCanonical length text)
    : text.toList.length = length := by
  simp only [isCanonical, Bool.and_eq_true, decide_eq_true_eq] at h
  exact h.1

end Hex
