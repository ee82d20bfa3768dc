import ConstitutionalSwarm.Quorum.EpochSafety

namespace Quorum

open Raising List
open Framing (Part framedMessage)

theorem UntaggedPolicy.value_inj {a b : UntaggedPolicy} (h : a.value = b.value) : a = b := by
  cases a <;> cases b <;> first | rfl | exact absurd h (by decide)

def FaultDomainPolicy.reals (policy : FaultDomainPolicy) : List ℚ :=
  [policy.maxFraction]

def ValidatorIdentity.reals (identity : ValidatorIdentity) : List ℚ :=
  [identity.stake, identity.reputation]

def ValidatorSet.reals (set : ValidatorSet) : List ℚ :=
  set.policy.reals ++ set.snapshot.flatMap ValidatorIdentity.reals

section Fields

variable [Numerics] {floats : Set ℚ} (htext : Set.InjOn Numerics.floatHex floats)

include htext

theorem policyFields_inj {a b : FaultDomainPolicy} (ha : ∀ x ∈ a.reals, x ∈ floats)
    (hb : ∀ x ∈ b.reals, x ∈ floats) (h : policyFields a = policyFields b) : a = b := by
  simp only [policyFields, cons.injEq, and_true, true_and] at h
  obtain ⟨hfraction, huntagged⟩ := h
  simp only [FaultDomainPolicy.reals, forall_mem_singleton] at ha hb
  have hreal := htext ha hb (String.encodeUTF8_injective hfraction)
  have hvalue := UntaggedPolicy.value_inj (String.encodeUTF8_injective huntagged)
  cases a
  cases b
  simp_all only

theorem identityFields_inj {a b : ValidatorIdentity} (ha : ∀ x ∈ a.reals, x ∈ floats)
    (hb : ∀ x ∈ b.reals, x ∈ floats) (h : identityFields a = identityFields b) : a = b := by
  simp only [identityFields, cons.injEq, and_true] at h
  obtain ⟨hid, hstake, hrep, hdomain, hkey⟩ := h
  simp only [ValidatorIdentity.reals, forall_mem_cons] at ha hb
  replace hid := String.encodeUTF8_injective hid
  replace hstake := htext ha.1 hb.1 (String.encodeUTF8_injective hstake)
  replace hrep := htext ha.2.1 hb.2.1 (String.encodeUTF8_injective hrep)
  replace hdomain := String.encodeUTF8_injective hdomain
  -- an absent key reads as the empty text, which is no key
  have hpresent : ∀ {v : ValidatorIdentity} {key}, v.publicKeyBytes = some key → key ≠ [] := by
    rintro v key h rfl
    exact absurd (v.length_key [] h) (by decide)
  replace hkey : a.publicKeyBytes = b.publicKeyBytes := by
    cases hka : a.publicKeyBytes <;> cases hkb : b.publicKeyBytes <;>
      simp only [hka, hkb, Option.getD] at hkey
    . rfl
    . exact absurd hkey.symm (hpresent hkb)
    . exact absurd hkey (hpresent hka)
    . rw [hkey]
  cases a
  cases b
  simp_all only

theorem flatMap_identityFields_inj {as bs : List ValidatorIdentity}
    (ha : ∀ x ∈ as.flatMap ValidatorIdentity.reals, x ∈ floats)
    (hb : ∀ x ∈ bs.flatMap ValidatorIdentity.reals, x ∈ floats) (hlen : as.length = bs.length)
    (h : as.flatMap identityFields = bs.flatMap identityFields) : as = bs := by
  induction as generalizing bs with
  | nil => exact (length_eq_zero_iff.mp hlen.symm).symm
  | cons a as ih =>
    cases bs with
    | nil => cases hlen
    | cons b bs =>
      simp only [flatMap_cons, forall_mem_append] at ha hb h
      obtain ⟨hflds, hrest⟩ := append_inj h rfl
      rw [identityFields_inj htext ha.1 hb.1 hflds, ih ha.2 hb.2 (Nat.succ.inj hlen) hrest]

theorem validatorSetMessage_inj {set set' : ValidatorSet} (ha : ∀ x ∈ set.reals, x ∈ floats)
    (hb : ∀ x ∈ set'.reals, x ∈ floats) (h : validatorSetMessage set = .ok raw)
    (h' : validatorSetMessage set' = .ok raw)
    : set.policy = set'.policy ∧ set.snapshot = set'.snapshot := by
  simp only [validatorSetMessage, validatedSnapshot, bind_eq_ok, exists_unit, pure_inj,
    toBytes_eq_ok] at h h'
  obtain ⟨_, ⟨-, rfl⟩, _, hheader, _, hcount, _, hbody, rfl⟩ := h
  obtain ⟨_, ⟨-, rfl⟩, _, hheader', _, hcount', _, hbody', heq⟩ := h'
  simp only [append_assoc, append_cancel_left_eq] at heq
  have hwidth : (policyFields set.policy).length = (policyFields set'.policy).length := rfl
  obtain ⟨hpol, heq⟩ := lengthPrefixedAll_append_inj hwidth hheader hheader' heq.symm
  obtain ⟨hlen, hbodies⟩ := BigEndian.toBytes_append_inj hcount hcount' heq
  have hflds := lengthPrefixedAll_inj (by simp [identityFields, hlen]) hbody hbody' hbodies
  simp only [ValidatorSet.reals, forall_mem_append] at ha hb
  exact ⟨policyFields_inj htext ha.1 hb.1 hpol,
    flatMap_identityFields_inj htext ha.2 hb.2 hlen hflds⟩

end Fields

-- after the domain a version goes on with a letter, a set with a length below 2 ^ 24
theorem versionMessage_ne_validatorSetMessage [Numerics] {epoch : ℕ} {set : ValidatorSet}
    (h : versionMessage epoch rules parent = .ok raw) : validatorSetMessage set ≠ .ok raw := by
  intro h'
  simp only [versionMessage, bind_eq_ok, exists_unit, pure_inj] at h
  obtain ⟨-, -, _, -, _, -, _, -, _, -, rfl⟩ := h
  simp only [validatorSetMessage, policyFields, lengthPrefixedAll, bind_eq_ok, pure_inj] at h'
  obtain ⟨_, -, _, ⟨first, hfirst, _, -, rfl⟩, _, -, _, -, heq⟩ := h'
  obtain rfl : [0, 0, 0, 13] ++ "validator-set".encodeUTF8 = first := by
    exact Except.ok.inj hfirst
  simp only [append_assoc, append_cancel_left_eq] at heq
  have hletter : some (0 : UInt8) = some 118 := congrArg head? heq
  exact absurd hletter (by decide)

theorem transcripts_injective [Numerics] (floats : Set ℚ)
    (htext : Set.InjOn Numerics.floatHex floats)
    : (∀ {domain domain' : Bytes} {parts parts' : List Part} {raw : Bytes},
        framedMessage domain parts = .ok raw → framedMessage domain' parts' = .ok raw →
        domain = domain' ∧ parts = parts') ∧
      (∀ {version version' : ConstitutionVersion} {raw : Bytes},
        versionMessage version.epoch version.rules version.parentDigest = .ok raw →
        versionMessage version'.epoch version'.rules version'.parentDigest = .ok raw →
        version = version') ∧
      (∀ {set set' : ValidatorSet} {raw : Bytes},
        (∀ x ∈ set.reals, x ∈ floats) → (∀ x ∈ set'.reals, x ∈ floats) →
        validatorSetMessage set = .ok raw → validatorSetMessage set' = .ok raw →
        set.policy = set'.policy ∧ set.snapshot = set'.snapshot) ∧
      ∀ {version : ConstitutionVersion} {set : ValidatorSet} {raw : Bytes},
        versionMessage version.epoch version.rules version.parentDigest = .ok raw →
        validatorSetMessage set ≠ .ok raw := by
  refine ⟨Framing.framedMessage_inj, ?_, validatorSetMessage_inj htext,
    versionMessage_ne_validatorSetMessage⟩
  intro version version' raw h h'
  obtain ⟨hepoch, hrules, hparent⟩ := versionMessage_inj h h'
  cases version
  cases version'
  simp_all only

end Quorum

namespace Quorum.Sample

local instance binary : Numerics where
  relTol := 1 / 10 ^ 9
  relTol_nonneg := by norm_num
  fixed6 _ := ""
  floatHex value :=
    if value = 0 then "0x0.0p+0"
    else if value = 1 then "0x1.0000000000000p+0" else "0x1.0000000000000p-1"

def halfStakedSet : ValidatorSet :=
  setOf [validator "a" plain_a 0 "east" 0, validator "b" plain_b 1 "west" 1] (by decide)

theorem transcripts_injective_unstaked
    : (validatorSetMessage unstakedSet).isOk ∧ (validatorSetMessage halfStakedSet).isOk ∧
      ¬∃ raw, validatorSetMessage unstakedSet = .ok raw ∧
        validatorSetMessage halfStakedSet = .ok raw := by
  refine ⟨by decide +kernel, by decide +kernel, ?_⟩
  rintro ⟨raw, hunstaked, hhalf⟩
  have htext : Set.InjOn Numerics.floatHex {(0 : ℚ), 1, 1 / 2} := by
    rintro _ (rfl | rfl | rfl) _ (rfl | rfl | rfl) h <;>
      first | rfl | exact absurd h (by decide +kernel)
  obtain ⟨-, hsnap⟩ := (transcripts_injective _ htext).2.2.1
    (by decide +kernel) (by decide +kernel) hunstaked hhalf
  exact absurd hsnap (by decide +kernel)

end Quorum.Sample
