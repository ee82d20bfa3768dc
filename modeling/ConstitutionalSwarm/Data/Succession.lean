import Mathlib.Data.Set.Insert
import Mathlib.Data.List.Basic

structure Succession (κ δ : Type) where
  chain : κ → List δ
  revoked : Set δ
  distinct : ∀ {k l : κ} {i j : Nat} {d : δ},
    (chain k)[i]? = some d → (chain l)[j]? = some d → k = l ∧ i = j
  revoked_last : ∀ d ∈ revoked, ∃ k, (chain k).getLast? = some d

namespace Succession

variable {κ δ : Type}

def empty : Succession κ δ where
  chain _ := []
  revoked := ∅
  distinct := by simp
  revoked_last := by simp

variable (h : Succession κ δ)

def Holds (d : δ) : Prop :=
  ∃ k, d ∈ h.chain k

def Current (d : δ) : Prop :=
  d ∉ h.revoked ∧ ∃ k, (h.chain k).getLast? = some d

def Succeeds (old new : δ) : Prop :=
  ∃ k i, (h.chain k)[i]? = some old ∧ (h.chain k)[i + 1]? = some new

def Superseded (d : δ) : Prop :=
  ∃ new, h.Succeeds d new

variable {h}

theorem holds_iff {d : δ} : h.Holds d ↔ ∃ k, ∃ i : Nat, (h.chain k)[i]? = some d := by
  simp only [Holds, List.mem_iff_getElem?]

def revoke (h : Succession κ δ) (d : δ) (hlast : ∃ k, (h.chain k).getLast? = some d)
    : Succession κ δ where
  chain := h.chain
  revoked := insert d h.revoked
  distinct := h.distinct
  revoked_last := by
    rintro e (rfl | he)
    . exact hlast
    . exact h.revoked_last e he

section Revoke

variable {d e : δ} {hlast : ∃ k, (h.chain k).getLast? = some d}

@[simp]
theorem chain_revoke : (h.revoke d hlast).chain = h.chain := rfl

@[simp]
theorem mem_revoked_revoke : e ∈ (h.revoke d hlast).revoked ↔ e = d ∨ e ∈ h.revoked :=
  Iff.rfl

@[simp]
theorem current_revoke : (h.revoke d hlast).Current e ↔ e ≠ d ∧ h.Current e := by
  simp [Current, mem_revoked_revoke, chain_revoke, and_assoc]

@[simp]
theorem superseded_revoke : (h.revoke d hlast).Superseded e ↔ h.Superseded e :=
  Iff.rfl

end Revoke

variable [DecidableEq κ]

def publish (h : Succession κ δ) (k : κ) (d : δ) (hfresh : ¬ h.Holds d)
    (hopen : ∀ e ∈ (h.chain k).getLast?, e ∉ h.revoked) : Succession κ δ where
  chain l := if l = k then h.chain k ++ [d] else h.chain l
  revoked := h.revoked
  distinct := by
    have hget {l : κ} {i : Nat} {e : δ}
        (hi : (if l = k then h.chain k ++ [d] else h.chain l)[i]? = some e)
        : (h.chain l)[i]? = some e ∨ (l = k ∧ i = (h.chain k).length ∧ e = d) := by
      split at hi
      . next heq =>
        subst heq
        rw [List.getElem?_append] at hi
        split at hi
        . exact .inl hi
        . obtain ⟨hlt, hd⟩ := List.getElem?_eq_some_iff.mp hi
          simp only [List.length_singleton, Nat.lt_one_iff] at hlt
          simp only [hlt, List.getElem_cons_zero] at hd
          exact .inr ⟨rfl, by omega, hd.symm⟩
      . exact .inl hi
    intro l l' i j e hi hj
    rcases hget hi with hold | ⟨hl, hi', hd⟩ <;> rcases hget hj with hold' | ⟨hl', hj', hd'⟩
    . exact h.distinct hold hold'
    . exact absurd (holds_iff.mpr ⟨l, i, hd' ▸ hold⟩) hfresh
    . exact absurd (holds_iff.mpr ⟨l', j, hd ▸ hold'⟩) hfresh
    . exact ⟨hl.trans hl'.symm, hi'.trans hj'.symm⟩
  revoked_last := by
    intro e he
    obtain ⟨l, hl⟩ := h.revoked_last e he
    refine ⟨l, ?_⟩
    split
    . next heq => exact absurd he (hopen e (heq ▸ hl))
    . exact hl

section Publish

variable {k : κ} {d e : δ} {hfresh : ¬ h.Holds d}
  {hopen : ∀ e ∈ (h.chain k).getLast?, e ∉ h.revoked}

theorem chain_publish (l : κ)
    : (h.publish k d hfresh hopen).chain l = if l = k then h.chain k ++ [d] else h.chain l := rfl

@[simp]
theorem chain_publish_self : (h.publish k d hfresh hopen).chain k = h.chain k ++ [d] := by
  simp [chain_publish]

@[simp]
theorem revoked_publish : (h.publish k d hfresh hopen).revoked = h.revoked := rfl

theorem getElem?_publish {l : κ} {i : Nat}
    : ((h.publish k d hfresh hopen).chain l)[i]? = some e ↔
      (h.chain l)[i]? = some e ∨ (l = k ∧ i = (h.chain k).length ∧ e = d) := by
  rw [chain_publish]
  split
  . next heq =>
    subst heq
    rw [List.getElem?_append]
    split
    . next hlt =>
      constructor
      . exact .inl
      . rintro (hi | ⟨-, rfl, -⟩)
        . exact hi
        . omega
    . next hge =>
      rw [List.getElem?_eq_none (by omega : (h.chain l).length ≤ i), List.getElem?_singleton]
      simp only [reduceCtorEq, true_and, false_or]
      split
      . next hzero =>
        rw [Option.some.injEq, eq_comm]
        exact ⟨fun hd => ⟨by omega, hd⟩, fun hd => hd.2⟩
      . next hpos =>
        simp only [reduceCtorEq, false_iff, not_and]
        intro hi
        omega
  . next hne => simp [hne]

theorem getLast?_publish {l : κ}
    : ((h.publish k d hfresh hopen).chain l).getLast? = some e ↔
      (l = k ∧ e = d) ∨ (l ≠ k ∧ (h.chain l).getLast? = some e) := by
  rw [chain_publish]
  split
  . next heq => simp [heq, eq_comm]
  . next hne => simp [hne]

theorem current_publish (hnew : d ∉ h.revoked)
    : (h.publish k d hfresh hopen).Current e ↔
      e = d ∨ (h.Current e ∧ (h.chain k).getLast? ≠ some e) := by
  simp only [Current, revoked_publish, getLast?_publish]
  constructor
  . rintro ⟨he, l, ⟨-, hd⟩ | ⟨hl, hlast⟩⟩
    . exact .inl hd
    . refine .inr ⟨⟨he, l, hlast⟩, fun hlast' => hl ?_⟩
      rw [List.getLast?_eq_getElem?] at hlast hlast'
      exact (h.distinct hlast hlast').1
  . rintro (rfl | ⟨⟨he, l, hlast⟩, hne⟩)
    . exact ⟨hnew, k, .inl ⟨rfl, rfl⟩⟩
    . exact ⟨he, l, .inr ⟨fun hl => hne (hl ▸ hlast), hlast⟩⟩

theorem succeeds_publish {new : δ}
    : (h.publish k d hfresh hopen).Succeeds e new ↔
      h.Succeeds e new ∨ ((h.chain k).getLast? = some e ∧ new = d) := by
  simp only [Succeeds, getElem?_publish]
  constructor
  . rintro ⟨l, i, hi | ⟨hl, hi, -⟩, hj | ⟨hl', hj, hnew⟩⟩
    . exact .inl ⟨l, i, hi, hj⟩
    . subst hl'
      refine .inr ⟨?_, hnew⟩
      rw [List.getLast?_eq_getElem?, ← hj]
      exact hi
    . subst hl
      obtain ⟨hlt, -⟩ := List.getElem?_eq_some_iff.mp hj
      omega
    . omega
  . rintro (⟨l, i, hi, hj⟩ | ⟨hlast, rfl⟩)
    . exact ⟨l, i, .inl hi, .inl hj⟩
    . rw [List.getLast?_eq_getElem?] at hlast
      obtain ⟨hlt, -⟩ := List.getElem?_eq_some_iff.mp hlast
      exact ⟨k, _, .inl hlast, .inr ⟨rfl, by omega, rfl⟩⟩

theorem superseded_publish
    : (h.publish k d hfresh hopen).Superseded e ↔
      h.Superseded e ∨ (h.chain k).getLast? = some e := by
  simp [Superseded, succeeds_publish, exists_or]

end Publish

end Succession
