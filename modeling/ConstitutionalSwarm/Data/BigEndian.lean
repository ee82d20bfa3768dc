import ConstitutionalSwarm.Data.Base64

/-!
This module contains big-endian numbers of a fixed width and payloads that carry their length in
front, with the proof that a sequence of such payloads can be taken apart in one way only.
-/

namespace BigEndian

def bytes : ℕ → ℕ → Bytes
  | 0, _ => []
  | width + 1, n => bytes width (n / 256) ++ [UInt8.ofNat n]

def toBytes (width n : ℕ) : Option Bytes :=
  if n < 256 ^ width then some (bytes width n) else none

@[simp]
theorem length_bytes (width n : ℕ) : (bytes width n).length = width := by
  induction width generalizing n with
  | zero => rfl
  | succ width ih => rw [bytes, List.length_append, ih, List.length_singleton]

theorem bytes_inj {width n m : ℕ} (hn : n < 256 ^ width) (hm : m < 256 ^ width)
    : bytes width n = bytes width m ↔ n = m := by
  induction width generalizing n m with
  | zero =>
    simp only [pow_zero, Nat.lt_one_iff] at hn hm
    simp [hn, hm]
  | succ width ih =>
    rw [pow_succ'] at hn hm
    constructor
    . intro h
      obtain ⟨hinit, hlast⟩ := List.append_inj h (by simp)
      rw [ih (Nat.div_lt_of_lt_mul hn) (Nat.div_lt_of_lt_mul hm)] at hinit
      have hlast := congrArg UInt8.toNat (List.singleton_inj.mp hlast)
      rw [UInt8.toNat_ofNat', UInt8.toNat_ofNat'] at hlast
      omega
    . rintro rfl
      rfl

theorem toBytes_inj {width n m : ℕ} {raw : Bytes} (hn : toBytes width n = some raw)
    (hm : toBytes width m = some raw) : n = m := by
  unfold toBytes at hn hm
  split at hn <;> split at hm <;> simp_all only [Option.some.injEq, reduceCtorEq]
  next hn' hm' => exact (bytes_inj hn' hm').mp (hn.trans hm.symm)

theorem length_of_toBytes {width n : ℕ} {raw : Bytes} (h : toBytes width n = some raw)
    : raw.length = width := by
  unfold toBytes at h
  split at h
  . rw [← Option.some.inj h, length_bytes]
  . cases h

theorem toBytes_append_inj {width n m : ℕ} {raw raw' rest rest' : Bytes}
    (hn : toBytes width n = some raw) (hm : toBytes width m = some raw')
    (h : raw ++ rest = raw' ++ rest') : n = m ∧ rest = rest' := by
  obtain ⟨rfl, hrest⟩ := List.append_inj h
    ((length_of_toBytes hn).trans (length_of_toBytes hm).symm)
  exact ⟨toBytes_inj hn hm, hrest⟩

def framed (width : ℕ) (payload : Bytes) : Option Bytes :=
  (toBytes width payload.length).map (· ++ payload)

theorem framed_append_inj {width : ℕ} {a b raw raw' rest rest' : Bytes}
    (ha : framed width a = some raw) (hb : framed width b = some raw')
    (h : raw ++ rest = raw' ++ rest') : a = b ∧ rest = rest' := by
  obtain ⟨_, hfront, rfl⟩ := Option.map_eq_some_iff.mp ha
  obtain ⟨_, hfront', rfl⟩ := Option.map_eq_some_iff.mp hb
  rw [List.append_assoc, List.append_assoc] at h
  obtain ⟨hlen, hrests⟩ := toBytes_append_inj hfront hfront' h
  exact List.append_inj hrests hlen

end BigEndian
