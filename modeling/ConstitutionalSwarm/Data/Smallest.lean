import Mathlib.Data.List.Perm.Lattice
import Mathlib.Data.List.Sort

/-!
This module contains the choice of the `k` smallest elements of a list by a key, in which elements
of one key keep their order, as `heapq.nsmallest` makes it.
-/

namespace Smallest

open List

variable {α κ : Type} [LinearOrder κ] (key : α → κ)

@[irreducible]
def sortBy (l : List α) : List α :=
  l.insertionSort fun a b => key a ≤ key b

def smallest (k : ℕ) (l : List α) : List α :=
  (sortBy key l).take k

def countLt (l : List α) (a : α) : ℕ :=
  l.countP fun b => decide (key b < key a)

def countLe (l : List α) (a : α) : ℕ :=
  l.countP fun b => decide (key b ≤ key a)

def Cuts (k : ℕ) (l : List α) : Prop :=
  ∃ a ∈ l, countLt key l a < k ∧ k < countLe key l a

variable {key} {k : ℕ} {l l' : List α} {a : α}

theorem sortBy_perm (l : List α) : (sortBy key l).Perm l := by
  rw [sortBy]
  exact perm_insertionSort _ _

variable (key) in
theorem pairwise_sortBy (l : List α) : (sortBy key l).Pairwise fun a b => key a ≤ key b := by
  have : Std.Total fun a b => key a ≤ key b := ⟨fun a b => le_total (key a) (key b)⟩
  have : IsTrans α fun a b => key a ≤ key b := ⟨fun _ _ _ => le_trans⟩
  rw [sortBy]
  exact pairwise_insertionSort _ _

theorem countLt_perm (h : l.Perm l') (a : α) : countLt key l a = countLt key l' a :=
  h.countP_eq _

theorem countLe_perm (h : l.Perm l') (a : α) : countLe key l a = countLe key l' a :=
  h.countP_eq _

theorem cuts_perm (h : l.Perm l') : Cuts key k l ↔ Cuts key k l' := by
  unfold Cuts
  simp only [countLt_perm h, countLe_perm h, h.mem_iff]

theorem eq_append_of_pairwise (h : l.Pairwise fun a b => key a ≤ key b) (c : κ)
    : l = l.filter (fun b => decide (key b < c)) ++
      (l.filter (fun b => decide (key b = c)) ++ l.filter fun b => decide (c < key b)) := by
  induction l with
  | nil => rfl
  | cons b l ih =>
    rw [pairwise_cons] at h
    obtain ⟨hb, htail⟩ := h
    have hle : ∀ d, d ≤ key b → l.filter (fun b => decide (key b < d)) = [] := by
      intro d hd
      rw [filter_eq_nil_iff]
      intro e he
      simpa using hd.trans (hb e he)
    rcases lt_trichotomy (key b) c with hlt | heq | hgt
    . simp only [filter_cons, hlt, hlt.ne, hlt.not_gt, decide_true, decide_false, if_true,
        Bool.false_eq_true, if_false, cons_append, cons.injEq, true_and]
      exact ih htail
    . have hnil := hle c heq.ge
      have hrest := ih htail
      rw [hnil, nil_append] at hrest
      simp only [filter_cons, heq, lt_irrefl, decide_true, decide_false, if_true,
        Bool.false_eq_true, if_false, hnil, nil_append, cons_append, cons.injEq, true_and]
      exact hrest
    . have hnil := hle c hgt.le
      have hrest := ih htail
      have hnone : l.filter (fun b => decide (key b = c)) = [] := by
        rw [filter_eq_nil_iff]
        intro e he
        simpa using (hgt.trans_le (hb e he)).ne'
      rw [hnil, hnone, nil_append, nil_append] at hrest
      simp only [filter_cons, hgt, hgt.ne', hgt.not_gt, decide_true, decide_false, if_true,
        Bool.false_eq_true, if_false, hnil, hnone, nil_append, cons.injEq, true_and]
      exact hrest

theorem filter_sortBy (l : List α) (c : κ)
    : (sortBy key l).filter (fun b => decide (key b = c)) =
      l.filter fun b => decide (key b = c) := by
  have hpair : (l.filter fun b => decide (key b = c)).Pairwise fun a b => key a ≤ key b := by
    apply pairwise_of_forall_mem_list
    intro a ha b hb
    simp only [mem_filter, decide_eq_true_eq] at ha hb
    rw [ha.2, hb.2]
  have : Std.Total fun a b => key a ≤ key b := ⟨fun a b => le_total (key a) (key b)⟩
  have : IsTrans α fun a b => key a ≤ key b := ⟨fun _ _ _ => le_trans⟩
  have hsub : (l.filter fun b => decide (key b = c)).Sublist (sortBy key l) := by
    rw [sortBy]
    exact sublist_insertionSort hpair filter_sublist
  have hsub := hsub.filter fun b => decide (key b = c)
  rw [filter_filter] at hsub
  simp only [Bool.and_self] at hsub
  symm
  apply hsub.eq_of_length
  exact ((sortBy_perm l).filter _).length_eq.symm

variable (key) in
theorem length_filter_lt (l : List α) (a : α)
    : ((sortBy key l).filter fun b => decide (key b < key a)).length = countLt key l a := by
  rw [← countP_eq_length_filter]
  exact (sortBy_perm l).countP_eq _

variable (key) in
theorem countLe_eq (l : List α) (a : α)
    : countLe key l a = countLt key l a + (l.filter fun b => decide (key b = key a)).length := by
  unfold countLe countLt
  rw [← countP_eq_length_filter]
  induction l with
  | nil => rfl
  | cons b l ih =>
    simp only [countP_cons]
    rcases lt_trichotomy (key b) (key a) with h | h | h
    . simp [h, h.le, h.ne]
      omega
    . simp [h]
      omega
    . simp [h.not_ge, h.not_gt, h.ne']
      omega

theorem countLt_lt_of_mem (h : a ∈ smallest key k l) : countLt key l a < k := by
  have hparts := eq_append_of_pairwise (pairwise_sortBy key l) (key a)
  have hlt := length_filter_lt key l a
  by_contra hk
  rw [smallest, hparts, take_append_of_le_length (by omega)] at h
  have := mem_of_mem_take h
  simp at this

theorem mem_of_mem_smallest (h : a ∈ smallest key k l) : a ∈ l :=
  (sortBy_perm l).mem_iff.mp (mem_of_mem_take h)

theorem smallest_perm_filter (hnodup : l.Nodup) (h : ¬Cuts key k l)
    : (smallest key k l).Perm (l.filter fun a => decide (countLe key l a ≤ k)) := by
  have hsort : (sortBy key l).Nodup := (sortBy_perm l).nodup_iff.mpr hnodup
  have hchosen : (smallest key k l).Nodup := hsort.sublist (take_sublist _ _)
  rw [perm_ext_iff_of_nodup hchosen (hnodup.sublist filter_sublist)]
  intro a
  rw [mem_filter, decide_eq_true_eq]
  constructor
  . intro ha
    refine ⟨mem_of_mem_smallest ha, ?_⟩
    by_contra hgt
    exact h ⟨a, mem_of_mem_smallest ha, countLt_lt_of_mem ha, by omega⟩
  . rintro ⟨hal, hk⟩
    -- the list in three parts: the smaller keys, the class of `a`, the larger ones
    have hparts := eq_append_of_pairwise (pairwise_sortBy key l) (key a)
    have hlt := length_filter_lt key l a
    have hle := countLe_eq key l a
    have hmem : a ∈ l.filter fun b => decide (key b = key a) := by simpa using hal
    rw [filter_sortBy] at hparts
    rw [smallest, hparts, ← append_assoc, take_append]
    apply mem_append_left
    rw [take_of_length_le (by rw [length_append]; omega)]
    exact mem_append_right _ hmem

/-- The smallest of a list are those of a part of it that has them all. -/
theorem smallest_perm_part (hnodup' : l'.Nodup) (hpart : l.Subperm l')
    (hsub : smallest key k l' ⊆ l) (h : ¬Cuts key k l)
    : (smallest key k l').Perm (smallest key k l) := by
  have hnodup : l.Nodup := by
    obtain ⟨_, hperm, hsublist⟩ := hpart
    exact hperm.nodup_iff.mp (hnodup'.sublist hsublist)
  have hsort : (sortBy key l').Nodup := (sortBy_perm l').nodup_iff.mpr hnodup'
  have hchosen : (smallest key k l').Nodup := hsort.sublist (take_sublist _ _)
  have hle : (smallest key k l).length ≤ (smallest key k l').length := by
    simp only [smallest, length_take, (sortBy_perm _).length_eq]
    have := hpart.length_le
    omega
  refine (subperm_of_subset hchosen fun a ha => ?_).perm_of_length_le hle
  rw [(smallest_perm_filter hnodup h).mem_iff, mem_filter, decide_eq_true_eq]
  refine ⟨hsub ha, ?_⟩
  have hlt : countLt key l a ≤ countLt key l' a := hpart.countP_le _
  have := countLt_lt_of_mem ha
  by_contra hgt
  exact h ⟨a, hsub ha, by omega, by omega⟩

theorem exists_not_mem_reverse (hnodup : l.Nodup) (h : Cuts key k l)
    : ∃ a ∈ smallest key k l, a ∉ smallest key k l.reverse := by
  obtain ⟨b, hb, hlt, hle⟩ := h
  have hne : l.filter (fun a => decide (key a = key b)) ≠ [] := by
    apply ne_nil_of_mem
    rw [mem_filter]
    exact ⟨hb, by simp⟩
  obtain ⟨a, _, hclass⟩ := exists_cons_of_ne_nil hne
  rw [countLe_eq key, hclass, length_cons] at hle
  refine ⟨a, ?_, ?_⟩
  . have hparts := eq_append_of_pairwise (pairwise_sortBy key l) (key b)
    have hlen := length_filter_lt key l b
    rw [filter_sortBy, hclass] at hparts
    rw [smallest, hparts, take_append]
    apply mem_append_right
    obtain ⟨m, hm⟩ : ∃ m, k - ((sortBy key l).filter
        fun a => decide (key a < key b)).length = m + 1 := ⟨_, (Nat.succ_pred (by omega)).symm⟩
    rw [hm]
    exact mem_cons_self
  . have hparts := eq_append_of_pairwise (pairwise_sortBy key l.reverse) (key b)
    have hlen := length_filter_lt key l.reverse b
    rw [countLt_perm l.reverse_perm] at hlen
    rw [filter_sortBy, filter_reverse, hclass, reverse_cons] at hparts
    have hsort : (sortBy key l.reverse).Nodup :=
      (sortBy_perm _).nodup_iff.mpr (nodup_reverse.mpr hnodup)
    intro ha
    rw [smallest] at ha
    rw [hparts] at hsort ha
    rw [append_assoc, ← append_assoc] at hsort ha
    rw [take_append_of_le_length (by rw [length_append, length_reverse]; omega)] at ha
    have hdisj := disjoint_of_nodup_append hsort
    exact hdisj (mem_of_mem_take ha) (by simp)

end Smallest
