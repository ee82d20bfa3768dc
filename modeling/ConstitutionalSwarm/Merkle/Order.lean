import ConstitutionalSwarm.Merkle.Convergence
import Mathlib.Data.List.Permutation

namespace Merkle

open Raising List
open Countdown (Counts)

namespace Replica

structure Sorts (known : String → Prop) (parents : String → List String) (done : Finset String)
    (order : List String) : Prop where
  stored : ∀ c ∈ order, known c
  fresh : ∀ c ∈ order, c ∉ done
  nodup : order.Nodup
  parents_before : ∀ before c after, order = before ++ c :: after →
    ∀ p ∈ parents c, p ∈ done ∨ p ∈ before
  -- what is never taken waits for another such node
  waits : ∀ c, known c → c ∉ done → c ∉ order → ∃ p ∈ parents c, p ∉ done ∧ p ∉ order

variable {known : String → Prop} {parents children : String → List String} {cids : List String}

theorem Sorts.cons (h : Sorts known parents (insert x done) order) (hx : known x) (hopen : x ∉ done)
    (hready : ∀ p ∈ parents x, p ∈ done) : Sorts known parents done (x :: order) := by
  have hfresh : ∀ c ∈ order, c ≠ x ∧ c ∉ done := fun c hc => by
    simpa only [Finset.mem_insert, not_or] using h.fresh c hc
  constructor
  . exact forall_mem_cons.mpr ⟨hx, h.stored⟩
  . exact forall_mem_cons.mpr ⟨hopen, fun c hc => (hfresh c hc).2⟩
  . exact nodup_cons.mpr ⟨fun hmem => (hfresh x hmem).1 rfl, h.nodup⟩
  . intro before c after horder p hp
    cases before with
    | nil =>
      obtain ⟨rfl, -⟩ := cons.inj horder
      exact .inl (hready p hp)
    | cons b before =>
      obtain ⟨rfl, hrest⟩ := cons.inj horder
      have hbefore := h.parents_before before c after hrest p hp
      simp only [Finset.mem_insert, mem_cons] at hbefore ⊢
      tauto
  . intro c hc hnew hout
    rw [mem_cons, not_or] at hout
    obtain ⟨p, hp, hpnew, hpout⟩ := h.waits c hc (by simp [hout.1, hnew]) hout.2
    rw [Finset.mem_insert, not_or] at hpnew
    exact ⟨p, hp, hpnew.2, by simp [hpnew.1, hpout]⟩

theorem sorts_kahn {count : String → ℤ} (h : Counts known parents done count queue)
    (hpars : ∀ c, known c → (parents c).Nodup) (hnodup : ∀ x, (children x).Nodup)
    (hchildren : ∀ x, known x → ∀ c, c ∈ children x ↔ known c ∧ x ∈ parents c)
    (hcids : ∀ c, known c → c ∈ cids) (hfuel : (cids.filter (· ∉ done)).length < fuel)
    : Sorts known parents done (kahn children fuel count queue) := by
  induction fuel generalizing done count queue with
  | zero => cases hfuel
  | succ fuel ih =>
    cases queue with
    | nil =>
      refine ⟨by simp [kahn], by simp [kahn], nodup_nil, by simp [kahn], ?_⟩
      intro c hc hopen _
      by_contra hnone
      refine absurd ((h.mem_pending c).mpr ⟨hc, hopen, ?_⟩) not_mem_nil
      intro p hp
      by_contra hp'
      exact hnone ⟨p, hp, hp', not_mem_nil⟩
    | cons x queue =>
      obtain ⟨hx, hopen, hready⟩ := (h.mem_pending x).mp mem_cons_self
      have hless := Countdown.length_filter_insert_lt (hcids x hx) hopen
      refine Sorts.cons (ih ?_ (by omega)) hx hopen hready
      exact h.finish (.refl _) hpars (perm_orderedInsert _) (hnodup x) (hchildren x hx)

variable {r : Replica}

def storedParents (r : Replica) (c : String) : List String :=
  (r.parentsOf c).filter (· ∈ r.cids)

theorem inDegree_eq_length (r : Replica) (c : String)
    : r.inDegree c = (r.storedParents c).length := by
  rw [inDegree, storedParents, parentsOf, parents]
  cases r.get c with
  | none => rfl
  | some node => rfl

theorem counts_inDegree (h : Indexed r)
    : Counts (· ∈ r.cids) r.storedParents ∅ r.inDegree
      (r.cids.filter (r.inDegree · = 0)).mergeSort := by
  constructor
  . intro c hc
    simp [inDegree_eq_length]
  . intro c
    simp [inDegree_eq_length, eq_nil_iff_forall_not_mem]
  . intro c hc
    cases hc
  . rw [(mergeSort_perm _ _).nodup_iff]
    exact h.linked.nodup.filter _

theorem Indexed.sorts_taken (h : Indexed r)
    : Sorts (· ∈ r.cids) r.storedParents ∅ r.taken := by
  refine sorts_kahn (counts_inDegree h) ?_ ?_ ?_ (fun c hc => hc) (by simp [cids])
  . intro c hc
    exact (h.linked.nodup_parentsOf hc).filter _
  . intro x
    rw [storedChildren, (mergeSort_perm _ _).nodup_iff]
    exact (h.linked.nodup_children x).filter _
  . intro x hx c
    rw [storedChildren, mem_mergeSort, storedParents]
    simp only [mem_filter, decide_eq_true_eq]
    rw [mem_parentsOf h.linked.nodup, h.linked.mem_children]
    tauto

theorem Indexed.perm_taken (h : Indexed r) (hacyclic : ¬r.HasCycle) : r.taken.Perm r.cids := by
  have hsorts := h.sorts_taken
  rw [perm_ext_iff_of_nodup hsorts.nodup h.linked.nodup]
  refine fun c => ⟨hsorts.stored c, ?_⟩
  intro hc
  by_contra hout
  let s : Set String := {c | c ∈ r.cids ∧ c ∉ r.taken}
  have hs : s.Finite := (finite_toSet r.cids).subset fun c hc => hc.1
  have hstep : ∀ c ∈ s, ∃ p ∈ s, Dag.IsParent r.parents p c := by
    rintro c ⟨hc, hout⟩
    obtain ⟨p, hp, -, hpout⟩ := hsorts.waits c hc (Finset.notMem_empty c) hout
    rw [storedParents, mem_filter, decide_eq_true_eq, mem_parentsOf h.linked.nodup,
      ← h.isParent_iff] at hp
    exact ⟨p, ⟨hp.2, hpout⟩, hp.1⟩
  obtain ⟨d, -, hcycle⟩ := Dag.exists_cycle hs ⟨hc, hout⟩ hstep
  exact hacyclic ⟨d, hcycle⟩

theorem filterMap_get_cids (hnodup : r.cids.Nodup) : r.cids.filterMap r.get = r.nodes := by
  rw [cids, filterMap_map]
  conv_rhs => rw [← filterMap_some (l := r.nodes)]
  apply filterMap_congr
  intro n hn
  exact get_of_mem hnodup hn

theorem topologicalOrder_sorts [Apcc.Platform] [Interpreter] (h : Reached r)
    (hacyclic : ¬r.HasCycle)
    : ∃ order, r.topologicalOrder = .ok order ∧ order.Perm r.nodes ∧
      ∀ before node after, order = before ++ node :: after →
        ∀ p ∈ node.parentCids, p ∈ r.cids → p ∈ before.map (·.cid) := by
  have hidx := h.sound.toIndexed
  have hperm : (r.taken.filterMap r.get).Perm r.nodes := by
    rw [← filterMap_get_cids hidx.linked.nodup]
    exact (hidx.perm_taken hacyclic).filterMap _
  have hsorts := hidx.sorts_taken
  refine ⟨r.taken.filterMap r.get, ?_, hperm, ?_⟩
  . rw [topologicalOrder, bind_eq_ok]
    exact ⟨(), raiseIf_eq_ok.mpr (by simp [hperm.length_eq]), rfl⟩
  . intro before node after horder p hp hstored
    have htaken : r.taken = before.map (·.cid) ++ node.cid :: after.map (·.cid) := by
      have hcids := map_cid_filterMap_get r r.taken
      rw [horder, filter_eq_self.mpr fun c hc => decide_eq_true (hsorts.stored c hc)] at hcids
      rw [← hcids, map_append, map_cons]
    have hnode : node ∈ r.nodes := hperm.mem_iff.mp (by simp [horder])
    have hparent : p ∈ r.storedParents node.cid := by
      rw [storedParents, parentsOf, parents_of_mem hidx.linked.nodup hnode]
      exact mem_filter.mpr ⟨hp, decide_eq_true hstored⟩
    exact (hsorts.parents_before _ _ _ htaken p hparent).resolve_left (Finset.notMem_empty p)

end Replica

end Merkle

namespace Merkle.Sample

open scoped Apcc.Sample JsonText.Sample

theorem topologicalOrder_sorts_replica
    : replica.nodes = [child, parent (.finite 0)] ∧
      replica.topologicalOrder = .ok [parent (.finite 0), child] := by
  refine ⟨nodes_replica, ?_⟩
  obtain ⟨order, horder, hperm, hfirst⟩ :=
    Replica.topologicalOrder_sorts reached_replica not_hasCycle_replica
  rw [nodes_replica, List.perm_pair] at hperm
  rcases hperm with rfl | rfl
  . have hbefore := hfirst [] child _ rfl parentCid (List.mem_singleton_self _)
      (by simp [cids_replica])
    cases hbefore
  . exact horder

end Merkle.Sample
