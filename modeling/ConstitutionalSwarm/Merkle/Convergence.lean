import ConstitutionalSwarm.Merkle.Runs

namespace Merkle

open Raising List

structure Observation where
  allCids : Finset String
  heads : Finset String
  causallyClosed : Finset String
  order : Py (List String)

namespace Replica

def observe (r : Replica) : Observation where
  allCids := r.cids.toFinset
  heads := r.heads
  causallyClosed := r.causallyClosed
  order := r.topologicalOrder.map fun nodes => nodes.map (·.cid)

variable {r r' : Replica}

theorem mergeSort_eq_of_mem_iff {l l' : List String} (hl : l.Nodup) (hl' : l'.Nodup)
    (h : ∀ a, a ∈ l ↔ a ∈ l') : l.mergeSort = l'.mergeSort := by
  apply List.Perm.eq_of_sortedLE (sortedLE_mergeSort) (sortedLE_mergeSort)
  exact (mergeSort_perm l _).trans
    (((perm_ext_iff_of_nodup hl hl').mpr h).trans (mergeSort_perm l' _).symm)

theorem map_cid_filterMap_get (r : Replica) (l : List String)
    : (l.filterMap r.get).map (·.cid) = l.filter (· ∈ r.cids) := by
  induction l with
  | nil => rfl
  | cons c l ih =>
    cases hget : r.get c with
    | none =>
      have hc : c ∉ r.cids := by rw [← get_isSome, hget]; simp
      simp [hget, hc, ih]
    | some n =>
      have hcid : n.cid = c := by simpa using find?_some hget
      have hc : c ∈ r.cids := by rw [← get_isSome, hget]; rfl
      simp [hget, hc, ih, hcid]

theorem order_eq (r : Replica)
    : r.observe.order = do
      raiseIf ((r.taken.filter (· ∈ r.cids)).length ≠ r.cids.length)
        (.valueError "Merkle DAG contains a cycle or inconsistent child index")
      return r.taken.filter (· ∈ r.cids) := by
  have hmap := map_cid_filterMap_get r r.taken
  have hlen : (r.taken.filterMap r.get).length = (r.taken.filter (· ∈ r.cids)).length := by
    rw [← hmap, length_map]
  have hnodes : r.nodes.length = r.cids.length := by rw [cids, length_map]
  simp only [observe, topologicalOrder, hlen, hnodes]
  cases raiseIf (decide ((r.taken.filter (· ∈ r.cids)).length ≠ r.cids.length))
    (.valueError "Merkle DAG contains a cycle or inconsistent child index") with
  | error error => rfl
  | ok _ => exact congrArg Except.ok hmap

theorem storedChildren_eq (h : Indexed r) (h' : Indexed r') (hpars : r.parents = r'.parents)
    (c : String) : r.storedChildren c = r'.storedChildren c := by
  apply mergeSort_eq_of_mem_iff ((h.linked.nodup_children c).filter _)
    ((h'.linked.nodup_children c).filter _)
  intro d
  simp only [mem_filter, decide_eq_true_eq, h.linked.mem_children, h'.linked.mem_children]
  rw [← h.isParent_iff, ← h'.isParent_iff, hpars, ← parents_isSome, ← parents_isSome, hpars]

theorem inDegree_eq (hpars : r.parents = r'.parents) (c : String)
    : r.inDegree c = r'.inDegree c := by
  have hcids : ∀ d, d ∈ r.cids ↔ d ∈ r'.cids := by
    intro d
    rw [← parents_isSome, ← parents_isSome, hpars]
  have hdegree : ∀ s : Replica, s.inDegree c =
      ((s.parents c).map fun ps => ((ps.filter (· ∈ s.cids)).length : ℤ)).getD 0 := by
    intro s
    rw [inDegree, parents]
    cases s.get c with
    | none => rfl
    | some node => rfl
  simp only [hdegree, hpars, hcids]

theorem observe_eq (h : Indexed r) (h' : Indexed r') (hpars : r.parents = r'.parents)
    : r.observe = r'.observe := by
  have hcids : ∀ c, c ∈ r.cids ↔ c ∈ r'.cids := by
    intro c
    rw [← parents_isSome, ← parents_isSome, hpars]
  have hperm : r.cids.Perm r'.cids :=
    (perm_ext_iff_of_nodup h.linked.nodup h'.linked.nodup).mpr hcids
  have hdegree : r.inDegree = r'.inDegree := funext fun c => inDegree_eq hpars c
  have hchildren : r.storedChildren = r'.storedChildren :=
    funext fun c => storedChildren_eq h h' hpars c
  have hnodes : r.nodes.length = r'.nodes.length := by
    have hlen := hperm.length_eq
    rwa [cids, cids, length_map, length_map] at hlen
  have htaken : r.taken = r'.taken := by
    have hqueue : (r.cids.filter (r'.inDegree · = 0)).mergeSort =
        (r'.cids.filter (r'.inDegree · = 0)).mergeSort :=
      mergeSort_eq_of_mem_iff (h.linked.nodup.filter _) (h'.linked.nodup.filter _) fun c => by
        rw [mem_filter, mem_filter, hcids]
    rw [taken, taken, hdegree, hchildren, hnodes, hqueue]
  have horder : r.observe.order = r'.observe.order := by
    rw [order_eq, order_eq, htaken, hperm.length_eq]
    simp only [hcids]
  have hall : r.cids.toFinset = r'.cids.toFinset := toFinset_eq_of_perm _ _ hperm
  have hheads : r.heads = r'.heads := by
    ext c
    rw [h.mem_heads_iff, h'.mem_heads_iff, hpars, hcids]
  have hclosed : r.causallyClosed = r'.causallyClosed := by
    ext c
    rw [h.mem_causallyClosed, h'.mem_causallyClosed, hpars]
  simp only [observe, Observation.mk.injEq]
  exact ⟨hall, hheads, hclosed, horder⟩

section Receive

theorem mem_cids_store
    : c ∈ (r.store node).cids ↔ c ∈ r.cids ∨ c = node.cid := by
  rw [cids, nodes_store]
  split
  . next hold =>
    constructor
    . exact .inl
    . rintro (hc | rfl)
      . exact hc
      . exact hold
  . rw [map_append, mem_append]
    simp [cids]

variable [Apcc.Platform] [Interpreter]

theorem mem_cids_receive (hnode : node.verifyCid)
    : c ∈ (receive verify s node).1.cids ↔ c ∈ s.1.cids ∨ c = node.cid := by
  unfold receive
  split
  . next hold =>
    constructor
    . exact .inl
    . rintro (hc | rfl)
      . exact hc
      . exact hold
  . rw [hnode, Bool.not_true, Bool.and_false, if_neg Bool.false_ne_true]
    exact mem_cids_store

theorem mem_cids_foldl_receive {verify : Bool} {nodes : List DAGNode}
    (hnodes : ∀ n ∈ nodes, n.verifyCid) {s : Replica × ℕ} {c : String}
    : c ∈ (nodes.foldl (receive verify) s).1.cids ↔ c ∈ s.1.cids ∨ c ∈ nodes.map (·.cid) := by
  induction nodes generalizing s with
  | nil => simp
  | cons n nodes ih =>
    rw [foldl_cons, ih fun m hm => hnodes m (mem_cons_of_mem n hm),
      mem_cids_receive (hnodes n mem_cons_self), map_cons, mem_cons, or_assoc]

inductive Received : List DAGNode → Replica → Prop
  | new (agentId : String) : Received [] (new agentId true)
  | mergeNodes {received nodes : List DAGNode} {r : Replica} (h : Received received r)
      : Received (received ++ nodes) (r.mergeNodes nodes).1
  | merge {received : List DAGNode} {r other : Replica} (h : Received received r)
      : Received (received ++ other.nodes) (r.merge other).1
  | mergeVerifiedNodes {received nodes : List DAGNode} {r : Replica} (h : Received received r)
      : Received (received ++ nodes) (r.mergeVerifiedNodes nodes).1

structure Holds (family received : List DAGNode) (r : Replica) : Prop extends Sound r where
  mem_cids : ∀ c, c ∈ r.cids ↔ c ∈ received.map (·.cid)
  subset : r.nodes ⊆ family

theorem Holds.foldl_receive {family received nodes : List DAGNode} (h : Holds family received r)
    (hnodes : ∀ n ∈ nodes, n.verifyCid) (hfamily : nodes ⊆ family) (verify : Bool)
    : Holds family (received ++ nodes) (nodes.foldl (Replica.receive verify) (r, 0)).1 := by
  refine ⟨h.toSound.foldl_receive (.inr hnodes), ?_, ?_⟩
  . intro c
    rw [mem_cids_foldl_receive hnodes, h.mem_cids, map_append, mem_append]
  . intro n hn
    exact (mem_nodes_foldl_receive hn).elim (fun hn => h.subset hn) fun hn => hfamily hn

theorem Received.holds {family received} (h : Received received r)
    (hfamily : received ⊆ family) (hver : ∀ n ∈ family, n.verifyCid)
    : Holds family received r := by
  -- a merge receives nodes of the family
  have hnodes : ∀ {nodes : List DAGNode}, nodes ⊆ family → ∀ n ∈ nodes, n.verifyCid :=
    fun hsub n hn => hver n (hsub hn)
  induction h with
  | new agentId =>
    refine ⟨(Reached.new agentId true).sound, ?_, nil_subset _⟩
    intro c
    rfl
  | mergeNodes h ih =>
    obtain ⟨hold, hnew⟩ := append_subset.mp hfamily
    exact (ih hold).foldl_receive (hnodes hnew) hnew _
  | merge h ih =>
    obtain ⟨hold, hnew⟩ := append_subset.mp hfamily
    exact (ih hold).foldl_receive (hnodes hnew) hnew _
  | mergeVerifiedNodes h ih =>
    obtain ⟨hold, hnew⟩ := append_subset.mp hfamily
    exact (ih hold).foldl_receive (hnodes hnew) hnew _

def Separates (family : List DAGNode) : Prop :=
  ∀ m ∈ family, ∀ n ∈ family,
    Apcc.Platform.sha256 (canonicalBytes m.toCanonicalDict) =
      Apcc.Platform.sha256 (canonicalBytes n.toCanonicalDict) →
    canonicalBytes m.toCanonicalDict = canonicalBytes n.toCanonicalDict

variable {family received received' : List DAGNode}

theorem Separates.parentCids_eq [JsonText.LawfulFloats] (h : Separates family)
    (hm : m ∈ family) (hn : n ∈ family) (hver : m.verifyCid ∧ n.verifyCid)
    (hcid : m.cid = n.cid) : m.parentCids = n.parentCids := by
  have hdig : m.computeCid = n.computeCid := by
    rw [← of_decide_eq_true hver.1, ← of_decide_eq_true hver.2, hcid]
  exact Merkle.parentCids_eq (h m hm n hn (Hex.encode_injective hdig))

theorem Holds.observe_eq [JsonText.LawfulFloats] (h : Holds family received r)
    (h' : Holds family received' r') (hinjective : Separates family)
    (hcids : ∀ c, c ∈ received.map (·.cid) ↔ c ∈ received'.map (·.cid))
    : r.observe = r'.observe := by
  apply Replica.observe_eq h.toIndexed h'.toIndexed
  funext c
  by_cases hc : c ∈ r.cids
  . have hc' : c ∈ r'.cids := by rwa [h'.mem_cids, ← hcids, ← h.mem_cids]
    obtain ⟨m, hm, hmc⟩ := mem_map.mp hc
    obtain ⟨n, hn, hnc⟩ := mem_map.mp hc'
    have hpars := hinjective.parentCids_eq (h.subset hm) (h'.subset hn)
      ⟨h.verified m hm, h'.verified n hn⟩ (hmc.trans hnc.symm)
    rw [← hmc, parents_of_mem h.linked.nodup hm, hmc, ← hnc, parents_of_mem h'.linked.nodup hn,
      hpars]
  . have hc' : c ∉ r'.cids := by rwa [h'.mem_cids, ← hcids, ← h.mem_cids]
    have hnone : r.parents c = none :=
      Option.not_isSome_iff_eq_none.mp fun hsome => hc (parents_isSome.mp hsome)
    have hnone' : r'.parents c = none :=
      Option.not_isSome_iff_eq_none.mp fun hsome => hc' (parents_isSome.mp hsome)
    rw [hnone, hnone']

theorem Holds.merge (h : Holds family received r) (h' : Holds family received' r')
    : Holds family (received ++ received') (r.merge r').1 := by
  have hmerged := h.foldl_receive h'.verified h'.subset r.rejectUnverified
  refine ⟨hmerged.toSound, ?_, hmerged.subset⟩
  intro c
  have hmem := hmerged.mem_cids c
  rw [map_append, mem_append] at hmem ⊢
  exact hmem.trans (or_congr_right (h'.mem_cids c))

/--
Replicas that have received the same verified nodes show the same, whatever the order, the grouping
and the repetitions; and so a merge is commutative, associative and idempotent.
-/
theorem replicas_converge [JsonText.LawfulFloats] {a b c : Replica} {as bs cs : List DAGNode}
    (ha : Received as a) (hb : Received bs b) (hc : Received cs c)
    (hverified : ∀ n ∈ as ++ bs ++ cs, n.verifyCid) (hinjective : Separates (as ++ bs ++ cs))
    : ((∀ n, n ∈ as ↔ n ∈ bs) → a.observe = b.observe) ∧
      (a.merge b).1.observe = (b.merge a).1.observe ∧
      ((a.merge b).1.merge c).1.observe = (a.merge (b.merge c).1).1.observe ∧
      (a.merge a).1.observe = a.observe := by
  have hA : Holds (as ++ bs ++ cs) as a := ha.holds (by simp) hverified
  have hB : Holds (as ++ bs ++ cs) bs b := hb.holds (by simp) hverified
  have hC : Holds (as ++ bs ++ cs) cs c := hc.holds (by simp) hverified
  refine ⟨?_, ?_, ?_, ?_⟩
  . intro hsame
    apply hA.observe_eq hB hinjective
    intro cid
    simp [hsame]
  . apply (hA.merge hB).observe_eq (hB.merge hA) hinjective
    intro cid
    simp only [map_append, mem_append]
    exact or_comm
  . apply ((hA.merge hB).merge hC).observe_eq (hA.merge (hB.merge hC)) hinjective
    intro cid
    rw [append_assoc]
  . apply (hA.merge hA).observe_eq hA hinjective
    intro cid
    simp

end Receive

end Replica

end Merkle

namespace Merkle.Sample

open scoped Apcc.Sample JsonText.Sample

theorem replicas_converge_stamped
    : (parent (.finite 0)).timestamp ≠ (parent (.finite 1)).timestamp ∧
      ((Replica.new "a" true).mergeNodes
          [child, parent (.finite 0), parent (.finite 1)]).1.observe =
        ((Replica.new "b" true).mergeVerifiedNodes
          [parent (.finite 1), child, parent (.finite 0)]).1.observe := by
  have hmem : ∀ n ∈ [child, parent (.finite 0), parent (.finite 1)] ++
      [parent (.finite 1), child, parent (.finite 0)] ++ [],
      n = child ∨ ∃ timestamp, n = parent timestamp := by
    simp
  refine ⟨by decide, ?_⟩
  apply (Replica.replicas_converge (.mergeNodes (.new "a")) (.mergeVerifiedNodes (.new "b"))
    (.new "c") ?_ ?_).1
  . intro n
    simp only [List.nil_append, List.mem_cons, List.not_mem_nil, or_false]
    tauto
  . intro n hn
    rcases hmem n hn with rfl | ⟨_, rfl⟩
    . exact verifyCid_node _
    . exact verifyCid_node _
  . intro m hm n hn hsha
    rcases hmem m hm with rfl | ⟨_, rfl⟩ <;> rcases hmem n hn with rfl | ⟨_, rfl⟩
    . rfl
    . exact absurd hsha.symm (sha256_ne _)
    . exact absurd hsha (sha256_ne _)
    . rw [parent, parent, canonicalBytes_node, canonicalBytes_node]

end Merkle.Sample
