import Mathlib.Logic.Relation
import ConstitutionalSwarm.Data.Assoc
import ConstitutionalSwarm.Data.Traverse

namespace Worklist

open List

theorem moves {attempted pending : List κ} {key b : κ} (h : b ∈ attempted ∨ b ∈ key :: pending)
    : b ∈ key :: attempted ∨ b ∈ pending := by
  rw [mem_cons] at h ⊢
  tauto

variable {κ ρ ν ε : Type} [DecidableEq κ] (rows : List (κ × ρ))
  (expand : ρ → Except ε (ν × List κ))

def untried (attempted : List κ) : List (κ × ρ) :=
  rows.filter fun r => r.1 ∉ attempted

variable {rows} in
theorem length_untried_cons_le (attempted : List κ) (key : κ)
    : (untried rows (key :: attempted)).length ≤ (untried rows attempted).length := by
  refine (monotone_filter_right rows fun r hr => ?_).length_le
  simp only [mem_cons, not_or, decide_eq_true_eq] at hr ⊢
  exact hr.2

variable {rows} in
theorem length_untried_cons_lt {attempted : List κ} {key : κ} {row : ρ}
    (hkey : key ∉ attempted) (hrow : rows.lookup key = some row)
    : (untried rows (key :: attempted)).length < (untried rows attempted).length := by
  have hsub : (untried rows (key :: attempted)).Sublist (untried rows attempted) := by
    refine monotone_filter_right rows fun r hr => ?_
    simp only [mem_cons, not_or, decide_eq_true_eq] at hr ⊢
    exact hr.2
  refine Nat.lt_of_le_of_ne hsub.length_le fun heq => ?_
  have hmem : (key, row) ∈ untried rows attempted := by
    simp [untried, Assoc.mem_of_lookup hrow, hkey]
  rw [← hsub.eq_of_length heq] at hmem
  simp [untried] at hmem

def run (attempted : List κ) : List κ → Except ε (List (κ × ν))
  | [] => .ok []
  | key :: pending =>
    if _hkey : key ∈ attempted then run attempted pending
    else
      match _hrow : rows.lookup key with
      | none => run (key :: attempted) pending
      | some row => do
        let (value, next) ← expand row
        let found ← run (key :: attempted) (next ++ pending)
        return (key, value) :: found
termination_by pending => ((untried rows attempted).length, pending.length)
decreasing_by
  . exact Prod.Lex.right _ (Nat.lt_succ_self _)
  . rcases Nat.lt_or_eq_of_le (length_untried_cons_le attempted key) with h | h
    . exact Prod.Lex.left _ _ h
    . rw [h]
      exact Prod.Lex.right _ (Nat.lt_succ_self _)
  . exact Prod.Lex.left _ _ (length_untried_cons_lt _hkey _hrow)

def Refers (a b : κ) : Prop :=
  ∃ row value next, rows.lookup a = some row ∧ expand row = .ok (value, next) ∧ b ∈ next

def Fails (key : κ) : Prop :=
  ∃ row error, rows.lookup key = some row ∧ expand row = .error error

variable {rows expand}

variable (rows) in
def Covers (attempted : List κ) (found : List (κ × ν)) (a : κ) : Prop :=
  a ∈ attempted ∨ a ∈ found.map Prod.fst ∨ rows.lookup a = none

variable (rows expand) in
structure Explores (attempted pending : List κ) (found : List (κ × ν)) : Prop where
  covered : ∀ p ∈ pending, Covers rows attempted found p
  closed : ∀ a, Covers rows attempted found a →
    ¬ Fails rows expand a ∧ ∀ b, Refers rows expand a b → Covers rows attempted found b
  reached : ∀ a ∈ found.map Prod.fst,
    ∃ p ∈ pending, Relation.ReflTransGen (Refers rows expand) p a

-- What has been tried and what is pending stay closed together until nothing is pending.
theorem run_explores {attempted pending : List κ}
    (hattempted : ∀ a ∈ attempted, ¬ Fails rows expand a ∧
      ∀ b, Refers rows expand a b → b ∈ attempted ∨ b ∈ pending)
    : match run rows expand attempted pending with
      | .ok found => Explores rows expand attempted pending found
      | .error _ => ∃ p ∈ pending, ∃ k, Relation.ReflTransGen (Refers rows expand) p k ∧
          Fails rows expand k := by
  fun_induction run with
  | case1 attempted =>
    refine ⟨by simp, ?_, by simp⟩
    rintro a (ha | ha | ha)
    . exact ⟨(hattempted a ha).1, fun b hb =>
        .inl (((hattempted a ha).2 b hb).resolve_right (by simp))⟩
    . simp at ha
    . simp [Fails, Refers, ha]
  | case2 attempted key pending hkey ih =>
    have hrest := ih fun a ha => ⟨(hattempted a ha).1, fun b hb => by
      rcases (hattempted a ha).2 b hb with hb | hb
      . exact .inl hb
      . rcases mem_cons.mp hb with rfl | hb
        . exact .inl hkey
        . exact .inr hb⟩
    split at hrest
    . exact ⟨forall_mem_cons.mpr ⟨.inl hkey, hrest.covered⟩, hrest.closed, fun a ha =>
        (hrest.reached a ha).imp fun _ hp => hp.imp_left (mem_cons_of_mem _)⟩
    . exact hrest.imp fun _ hp => hp.imp_left (mem_cons_of_mem _)
  | case3 attempted key pending hkey hrow ih =>
    have hrest := ih <| forall_mem_cons.mpr ⟨by simp [Fails, Refers, hrow], fun a ha =>
      ⟨(hattempted a ha).1, fun b hb => moves ((hattempted a ha).2 b hb)⟩⟩
    split at hrest
    . next found _ =>
      have hcovers (a : κ)
          : Covers rows (key :: attempted) found a ↔ Covers rows attempted found a := by
        simp only [Covers, mem_cons, or_assoc, or_iff_right_iff_imp]
        rintro rfl
        exact .inr (.inr hrow)
      obtain ⟨hcovered, hclosed, hreached⟩ := hrest
      simp only [hcovers] at hcovered hclosed
      exact ⟨forall_mem_cons.mpr ⟨.inr (.inr hrow), hcovered⟩, hclosed, fun a ha =>
        (hreached a ha).imp fun _ hp => hp.imp_left (mem_cons_of_mem _)⟩
    . exact hrest.imp fun _ hp => hp.imp_left (mem_cons_of_mem _)
  | case4 attempted key pending hkey row hrow ih =>
    cases hexpand : expand row with
    | error e => exact ⟨key, mem_cons_self, key, .refl, row, e, hrow, hexpand⟩
    | ok entry =>
      obtain ⟨value, next⟩ := entry
      have hrefers (b : κ) : Refers rows expand key b ↔ b ∈ next := by
        simp [Refers, hrow, hexpand]
      have hstart {p k : κ} (hp : p ∈ next ++ pending)
          (hpath : Relation.ReflTransGen (Refers rows expand) p k)
          : ∃ p ∈ key :: pending, Relation.ReflTransGen (Refers rows expand) p k := by
        rcases mem_append.mp hp with hp | hp
        . exact ⟨key, mem_cons_self, .head ((hrefers p).mpr hp) hpath⟩
        . exact ⟨p, mem_cons_of_mem _ hp, hpath⟩
      have hrest := ih next <| forall_mem_cons.mpr ⟨⟨by simp [Fails, hrow, hexpand], fun b hb =>
          .inr (mem_append_left _ ((hrefers b).mp hb))⟩, fun a ha =>
          ⟨(hattempted a ha).1, fun b hb =>
            (moves ((hattempted a ha).2 b hb)).imp_right (mem_append_right _)⟩⟩
      cases hrun : run rows expand (key :: attempted) (next ++ pending) with
      | error e =>
        rw [hrun] at hrest
        obtain ⟨p, hp, k, hpath, hfails⟩ := hrest
        obtain ⟨p, hp, hpath⟩ := hstart hp hpath
        simp only [hrun, bind, Except.bind]
        exact ⟨p, hp, k, hpath, hfails⟩
      | ok rest =>
        rw [hrun] at hrest
        have hcovers (a : κ) : Covers rows (key :: attempted) rest a ↔
            Covers rows attempted ((key, value) :: rest) a := by
          simp only [Covers, map_cons, mem_cons]
          tauto
        obtain ⟨hcovered, hclosed, hreached⟩ := hrest
        simp only [hcovers] at hcovered hclosed
        simp only [hrun, bind, Except.bind, pure, Except.pure]
        refine ⟨forall_mem_cons.mpr ⟨by simp [Covers], fun p hp =>
          hcovered p (mem_append_right _ hp)⟩, hclosed, ?_⟩
        rw [map_cons, forall_mem_cons]
        refine ⟨⟨key, mem_cons_self, .refl⟩, fun a ha => ?_⟩
        obtain ⟨p, hp, hpath⟩ := hreached a ha
        exact hstart hp hpath

theorem Explores.covers {pending : List κ} {found : List (κ × ν)}
    (h : Explores rows expand [] pending found) {p k : κ} (hp : p ∈ pending)
    (hpath : Relation.ReflTransGen (Refers rows expand) p k) : Covers rows [] found k := by
  induction hpath with
  | refl => exact h.covered p hp
  | tail _ hrefers ih => exact (h.closed _ ih).2 _ hrefers

theorem run_isOk_iff {pending : List κ}
    : (run rows expand [] pending).isOk ↔ ∀ p ∈ pending, ∀ k,
        Relation.ReflTransGen (Refers rows expand) p k → ¬ Fails rows expand k := by
  have hrun := @run_explores κ ρ ν ε _ rows expand [] pending (by simp)
  split at hrun
  . next found heq =>
    rw [heq]
    exact iff_of_true rfl fun p hp k hpath => (hrun.closed k (hrun.covers hp hpath)).1
  . next heq =>
    obtain ⟨p, hp, k, hpath, hfails⟩ := hrun
    rw [heq]
    exact iff_of_false (by simp [Except.isOk, Except.toBool]) fun h => h p hp k hpath hfails

end Worklist
