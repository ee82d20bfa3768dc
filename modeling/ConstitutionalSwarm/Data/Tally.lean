import ConstitutionalSwarm.Data.Assoc
import Mathlib.Algebra.Order.BigOperators.Group.Finset

namespace Tally

variable {α κ M : Type} [DecidableEq κ] [AddCommMonoid M]

variable (totals : List (κ × M))

def add (k : κ) (w : M) : List (κ × M) :=
  Assoc.set k ((totals.lookup k).getD 0 + w) totals

def groups (key : α → κ) (weight : α → M) (l : List α) : List (κ × M) :=
  l.foldl (fun totals a => add totals (key a) (weight a)) []

def total : M :=
  (totals.map Prod.snd).sum

theorem total_add (k : κ) (w : M)
    : total (add totals k w) = total totals + w := by
  unfold add total
  induction totals with
  | nil => simp [Assoc.set]
  | cons e totals ih =>
    rw [Assoc.set, Assoc.lookup_cons]
    by_cases h : e.1 = k
    . rw [if_pos h, if_pos h.symm]
      simp only [Option.getD_some, List.map_cons, List.sum_cons]
      exact add_right_comm _ _ _
    . rw [if_neg h, if_neg (Ne.symm h), List.map_cons, List.sum_cons, ih, List.map_cons,
        List.sum_cons, add_assoc]

section Ordered

variable [LinearOrder M] [IsOrderedAddMonoid M]

def capped (ceiling : M) (totals : List (κ × M)) : M :=
  (totals.map fun e => min e.2 ceiling).sum

omit [DecidableEq κ] in
theorem capped_le (ceiling : M) (totals : List (κ × M)) : capped ceiling totals ≤ total totals := by
  unfold capped total
  apply List.sum_le_sum
  intro e _
  exact min_le_left _ _

omit [DecidableEq κ] in
theorem capped_nonneg {ceiling : M} (h : 0 ≤ ceiling) {totals : List (κ × M)}
    (htotals : ∀ e ∈ totals, 0 ≤ e.2) : 0 ≤ capped ceiling totals := by
  apply List.sum_nonneg
  intro w hw
  obtain ⟨e, he, rfl⟩ := List.mem_map.mp hw
  exact le_min (htotals e he) h

theorem nonneg_add {totals : List (κ × M)} (htotals : ∀ e ∈ totals, 0 ≤ e.2) (k : κ) {w : M}
    (hw : 0 ≤ w) : ∀ e ∈ add totals k w, 0 ≤ e.2 := by
  have hold : 0 ≤ (totals.lookup k).getD 0 := by
    cases hlook : totals.lookup k with
    | none => exact le_refl 0
    | some old => exact htotals (k, old) (Assoc.mem_of_lookup hlook)
  intro e he
  rcases Assoc.mem_set he with rfl | he
  . exact Left.add_nonneg hold hw
  . exact htotals e he

end Ordered

section Overlap

variable {ι : Type} [DecidableEq ι] {G : Type} [AddCommGroup G] [LinearOrder G]
  [IsOrderedAddMonoid G] {w : ι → G} {A B C : Finset ι}

theorem add_le_add_inter (hA : A ⊆ C) (hB : B ⊆ C) (hw : ∀ i ∈ C, 0 ≤ w i)
    : (∑ i ∈ A, w i) + ∑ i ∈ B, w i ≤ (∑ i ∈ C, w i) + ∑ i ∈ A ∩ B, w i := by
  have hunion : ∑ i ∈ A ∪ B, w i ≤ ∑ i ∈ C, w i := by
    apply Finset.sum_le_sum_of_subset_of_nonneg (Finset.union_subset hA hB)
    intro i hi _
    exact hw i hi
  rw [← Finset.sum_union_inter]
  gcongr

end Overlap

end Tally
