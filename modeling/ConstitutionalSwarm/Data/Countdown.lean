import Mathlib.Data.Finset.Card

/-!
This module contains the loops that finish the nodes of a graph one after another and count, for
each node, the parents that are not finished yet.
-/

namespace Countdown

open List

variable {α : Type} [DecidableEq α]

def visit (push : α → List α → List α) (s : (α → ℤ) × List α) (c : α) : (α → ℤ) × List α :=
  (Function.update s.1 c (s.1 c - 1), if s.1 c - 1 = 0 then push c s.2 else s.2)

section Visit

variable {push : α → List α → List α} {cs : List α} {s : (α → ℤ) × List α}

theorem foldl_visit_count (hcs : cs.Nodup) (c : α)
    : (cs.foldl (visit push) s).1 c = if c ∈ cs then s.1 c - 1 else s.1 c := by
  induction cs generalizing s with
  | nil => simp
  | cons d cs ih =>
    obtain ⟨hd, hcs⟩ := nodup_cons.mp hcs
    rw [foldl_cons, ih hcs]
    by_cases hc : c = d
    . subst hc
      simp [visit, hd]
    . simp [visit, hc]

theorem foldl_visit_pending (hpush : ∀ a l, (push a l).Perm (a :: l)) (hcs : cs.Nodup)
    : (cs.foldl (visit push) s).2.Perm (cs.filter (fun c => s.1 c - 1 = 0) ++ s.2) := by
  induction cs generalizing s with
  | nil => simp
  | cons d cs ih =>
    obtain ⟨hd, hcs⟩ := nodup_cons.mp hcs
    -- the visit of `d` changes the count of no other
    have hfilter : cs.filter (fun c => (visit push s d).1 c - 1 = 0) =
        cs.filter fun c => s.1 c - 1 = 0 := by
      apply filter_congr
      intro c hc
      have hne : c ≠ d := fun h => hd (h ▸ hc)
      simp [visit, hne]
    rw [foldl_cons]
    apply (ih hcs).trans
    rw [hfilter]
    by_cases hzero : s.1 d - 1 = 0
    . simp only [visit, hzero, if_true, filter_cons, decide_true, cons_append]
      exact ((hpush d s.2).append_left _).trans perm_middle
    . simp [visit, hzero]

end Visit

structure Counts (known : α → Prop) (parents : α → List α) (done : Finset α) (count : α → ℤ)
    (pending : List α) : Prop where
  count_eq : ∀ c, known c → count c = (parents c).countP (· ∉ done)
  mem_pending : ∀ c, c ∈ pending ↔ known c ∧ c ∉ done ∧ ∀ p ∈ parents c, p ∈ done
  done_parents : ∀ c ∈ done, known c ∧ ∀ p ∈ parents c, p ∈ done
  nodup : pending.Nodup

section Counts

variable {known : α → Prop} {parents : α → List α} {done : Finset α} {count : α → ℤ}
  {pending rest cs : List α} {x : α} {push : α → List α → List α}

theorem countP_notMem_insert {ps : List α} (hps : ps.Nodup) (hx : x ∉ done)
    : ps.countP (· ∉ done) = ps.countP (· ∉ insert x done) + if x ∈ ps then 1 else 0 := by
  induction ps with
  | nil => rfl
  | cons p ps ih =>
    obtain ⟨hp, hps⟩ := nodup_cons.mp hps
    rw [countP_cons, countP_cons, ih hps]
    by_cases hpx : p = x
    . subst hpx
      simp [hx, hp]
    . have hxp : x ≠ p := Ne.symm hpx
      by_cases hdone : p ∈ done
      . simp [hpx, hxp, hdone]
      . simp [hpx, hxp, hdone]
        omega

theorem length_filter_insert_lt {l : List α} (hx : x ∈ l) (hopen : x ∉ done)
    : (l.filter (· ∉ insert x done)).length < (l.filter (· ∉ done)).length := by
  have hsub : (l.filter (· ∉ insert x done)).Sublist (l.filter (· ∉ done)) := by
    apply monotone_filter_right
    intro c hc
    simp only [Finset.mem_insert, not_or, decide_eq_true_eq] at hc ⊢
    exact hc.2
  refine Nat.lt_of_le_of_ne hsub.length_le fun heq => ?_
  have hmem : x ∈ l.filter (· ∉ done) := by simp [hx, hopen]
  rw [← hsub.eq_of_length heq] at hmem
  simp at hmem

theorem Counts.add {known' : α → Prop} {parents' : α → List α}
    (h : Counts known parents done count []) (hx : ¬known x)
    (hknown : ∀ c, known' c ↔ known c ∨ c = x) (hpars : ∀ c, known c → parents' c = parents c)
    : Counts known' parents' done (Function.update count x ((parents' x).countP (· ∉ done) : ℕ))
      (if (parents' x).countP (· ∉ done) = 0 then [x] else []) := by
  have hdone : x ∉ done := fun hdone => hx (h.done_parents x hdone).1
  have hne : ∀ c, known c → c ≠ x := fun c hc heq => hx (heq ▸ hc)
  have hready : (parents' x).countP (· ∉ done) = 0 ↔ ∀ p ∈ parents' x, p ∈ done := by
    rw [countP_eq_zero]
    simp only [decide_eq_true_eq, not_not]
  constructor
  . intro c hc
    rcases (hknown c).mp hc with hc | rfl
    . rw [Function.update_of_ne (hne c hc), hpars c hc]
      exact h.count_eq c hc
    . rw [Function.update_self]
  . intro c
    constructor
    . intro hc
      split at hc
      . next hzero =>
        rw [mem_singleton] at hc
        subst hc
        exact ⟨(hknown c).mpr (.inr rfl), hdone, hready.mp hzero⟩
      . cases hc
    . rintro ⟨hc, hopen, hall⟩
      rcases (hknown c).mp hc with hc | rfl
      -- none of the old nodes was pending
      . rw [hpars c hc] at hall
        cases (h.mem_pending c).mpr ⟨hc, hopen, hall⟩
      . rw [if_pos (hready.mpr hall)]
        exact mem_singleton_self c
  . intro c hc
    obtain ⟨hc', hall⟩ := h.done_parents c hc
    rw [hpars c hc']
    exact ⟨(hknown c).mpr (.inl hc'), hall⟩
  . split
    . exact nodup_singleton x
    . exact nodup_nil

theorem Counts.notMem_of_parent (h : Counts known parents done count pending) (hx : x ∈ pending)
    {c : α} (hxc : x ∈ parents c) : c ∉ insert x done := by
  obtain ⟨-, hopen, hready⟩ := (h.mem_pending x).mp hx
  rw [Finset.mem_insert, not_or]
  constructor
  . rintro rfl
    exact hopen (hready c hxc)
  . intro hdone
    exact hopen ((h.done_parents c hdone).2 x hxc)

theorem Counts.count_insert (h : Counts known parents done count pending)
    (hpars : ∀ c, known c → (parents c).Nodup) (hx : x ∉ done) {c : α} (hc : known c)
    : count c = (parents c).countP (· ∉ insert x done) + if x ∈ parents c then 1 else 0 := by
  rw [h.count_eq c hc, countP_notMem_insert (hpars c hc) hx]
  split <;> simp

theorem Counts.mem_pending_insert (h : Counts known parents done count pending)
    (hpend : pending.Perm (x :: rest)) (hpars : ∀ c, known c → (parents c).Nodup) (c : α)
    : (known c ∧ x ∈ parents c) ∧ count c - 1 = 0 ∨ c ∈ rest ↔
      known c ∧ c ∉ insert x done ∧ ∀ p ∈ parents c, p ∈ insert x done := by
  have hx : x ∈ pending := hpend.mem_iff.mpr mem_cons_self
  have hopen : x ∉ done := ((h.mem_pending x).mp hx).2.1
  have hrest : x ∉ rest := (nodup_cons.mp (hpend.nodup_iff.mp h.nodup)).1
  have hzero : known c → x ∈ parents c →
      (count c - 1 = 0 ↔ ∀ p ∈ parents c, p ∈ insert x done) := by
    intro hc hxc
    rw [h.count_insert hpars hopen hc, if_pos hxc, Int.add_sub_cancel, Int.natCast_eq_zero,
      countP_eq_zero]
    simp only [decide_eq_true_eq, not_not]
  constructor
  . rintro (⟨⟨hc, hxc⟩, hcount⟩ | hc)
    . exact ⟨hc, h.notMem_of_parent hx hxc, (hzero hc hxc).mp hcount⟩
    . obtain ⟨hc', hnew, hall⟩ := (h.mem_pending c).mp (hpend.mem_iff.mpr (.tail x hc))
      refine ⟨hc', ?_, fun p hp => Finset.mem_insert_of_mem (hall p hp)⟩
      rw [Finset.mem_insert, not_or]
      exact ⟨fun heq => hrest (heq ▸ hc), hnew⟩
  . rintro ⟨hc, hnew, hall⟩
    by_cases hxc : x ∈ parents c
    . exact .inl ⟨⟨hc, hxc⟩, (hzero hc hxc).mpr hall⟩
    . rw [Finset.mem_insert, not_or] at hnew
      have hc' : c ∈ pending := by
        refine (h.mem_pending c).mpr ⟨hc, hnew.2, ?_⟩
        intro p hp
        have hne : p ≠ x := fun heq => hxc (heq ▸ hp)
        exact Finset.mem_of_mem_insert_of_ne (hall p hp) hne
      exact .inr ((mem_cons.mp (hpend.mem_iff.mp hc')).resolve_left hnew.1)

theorem Counts.finish (h : Counts known parents done count pending)
    (hpend : pending.Perm (x :: rest)) (hpars : ∀ c, known c → (parents c).Nodup)
    (hpush : ∀ a l, (push a l).Perm (a :: l)) (hcs : cs.Nodup)
    (hmem : ∀ c, c ∈ cs ↔ known c ∧ x ∈ parents c)
    : Counts known parents (insert x done) (cs.foldl (visit push) (count, rest)).1
      (cs.foldl (visit push) (count, rest)).2 := by
  have hx : x ∈ pending := hpend.mem_iff.mpr mem_cons_self
  obtain ⟨hknown, hopen, hready⟩ := (h.mem_pending x).mp hx
  have hvisited : (cs.foldl (visit push) (count, rest)).2.Perm
      (cs.filter (fun c => count c - 1 = 0) ++ rest) := foldl_visit_pending hpush hcs
  constructor
  . intro c hc
    rw [foldl_visit_count hcs]
    simp only [hmem, hc, true_and, h.count_insert hpars hopen hc]
    split <;> simp
  . intro c
    rw [hvisited.mem_iff, mem_append, mem_filter, decide_eq_true_eq, hmem]
    exact h.mem_pending_insert hpend hpars c
  . intro c hc
    rcases Finset.mem_insert.mp hc with rfl | hc
    . exact ⟨hknown, fun p hp => Finset.mem_insert_of_mem (hready p hp)⟩
    . obtain ⟨hc', hall⟩ := h.done_parents c hc
      exact ⟨hc', fun p hp => Finset.mem_insert_of_mem (hall p hp)⟩
  . rw [hvisited.nodup_iff, nodup_append]
    refine ⟨hcs.filter _, (nodup_cons.mp (hpend.nodup_iff.mp h.nodup)).2, ?_⟩
    -- a node that waited for `x` was not pending
    rintro c hc d hd rfl
    have hxc := ((hmem c).mp (mem_filter.mp hc).1).2
    have hall := ((h.mem_pending c).mp (hpend.mem_iff.mpr (.tail x hd))).2.2
    exact hopen (hall x hxc)

end Counts

end Countdown
