import ConstitutionalSwarm.Data.Dag
import ConstitutionalSwarm.Merkle.Replica

namespace Merkle

open List

open Countdown (Counts)

namespace Replica

def parents (r : Replica) (cid : String) : Option (List String) :=
  (r.get cid).map (·.parentCids)

def parentsOf (r : Replica) (cid : String) : List String :=
  (r.parents cid).getD []

variable {r : Replica} {node : DAGNode}

theorem get_isSome : (r.get cid).isSome ↔ cid ∈ r.cids := by
  simp [get, cids]

theorem parents_isSome : (r.parents cid).isSome ↔ cid ∈ r.cids := by
  rw [parents, Option.isSome_map, get_isSome]

theorem get_of_mem (hnodup : r.cids.Nodup) (hnode : node ∈ r.nodes)
    : r.get node.cid = some node := by
  obtain ⟨found, hfound⟩ := Option.isSome_iff_exists.mp (get_isSome.mpr (mem_map_of_mem hnode))
  rw [hfound]
  have hcid : found.cid = node.cid := by simpa using find?_some hfound
  have hmem : found ∈ r.nodes := mem_of_find?_eq_some hfound
  rw [inj_on_of_nodup_map hnodup hmem hnode hcid]

theorem parents_of_mem (hnodup : r.cids.Nodup) (hnode : node ∈ r.nodes)
    : r.parents node.cid = some node.parentCids := by
  rw [parents, get_of_mem hnodup hnode]
  rfl

variable {c x : String} {pending : List String}

theorem mem_parentsOf (hnodup : r.cids.Nodup)
    : p ∈ r.parentsOf c ↔ ∃ n ∈ r.nodes, n.cid = c ∧ p ∈ n.parentCids := by
  constructor
  . intro hp
    cases hget : r.get c with
    | none => simp [parentsOf, parents, hget] at hp
    | some n =>
      have hcid : n.cid = c := by simpa using find?_some hget
      refine ⟨n, mem_of_find?_eq_some hget, hcid, ?_⟩
      simpa [parentsOf, parents, hget] using hp
  . rintro ⟨n, hn, rfl, hp⟩
    rw [parentsOf, parents_of_mem hnodup hn]
    exact hp

structure Linked (r : Replica) : Prop where
  nodup : r.cids.Nodup
  mem_children : ∀ p c, c ∈ r.children p ↔ ∃ n ∈ r.nodes, n.cid = c ∧ p ∈ n.parentCids
  nodup_children : ∀ p, (r.children p).Nodup

theorem Linked.nodup_parentsOf (h : Linked r) (hc : c ∈ r.cids)
    : (r.parentsOf c).Nodup := by
  obtain ⟨n, hn, rfl⟩ := mem_map.mp hc
  rw [parentsOf, parents_of_mem h.nodup hn]
  exact n.nodup

theorem Linked.mem_waiting (h : Linked r)
    : c ∈ r.waiting x ↔ c ∈ r.cids ∧ c ∉ r.causallyClosed ∧ x ∈ r.parentsOf c := by
  simp only [waiting, mem_filter, decide_eq_true_eq]
  rw [h.mem_children, mem_parentsOf h.nodup]
  tauto

structure Closing (r : Replica) (pending : List String) : Prop where
  linked : Linked r
  counts : Counts (· ∈ r.cids) r.parentsOf r.causallyClosed r.missingParentCount pending
  sound : ∀ c ∈ r.causallyClosed, Dag.Closed r.parents c

def countedDown (r : Replica) (x : String) (pending : List String)
    : (String → ℤ) × List String :=
  ((r.markClosed x).waiting x).foldl (Countdown.visit List.cons)
    ((r.markClosed x).missingParentCount, pending)

theorem closeCausality_cons (hx : x ∉ r.causallyClosed)
    : closeCausality (fuel + 1) r (x :: pending) = closeCausality fuel
        { r.markClosed x with missingParentCount := (r.countedDown x pending).1 }
        (r.countedDown x pending).2 := by
  rw [closeCausality, if_neg hx]
  rfl

theorem Closing.step (h : Closing r (x :: pending))
    : Closing { r.markClosed x with missingParentCount := (r.countedDown x pending).1 }
        (r.countedDown x pending).2 := by
  obtain ⟨hx, -, hready⟩ := (h.counts.mem_pending x).mp mem_cons_self
  have hmarked : Linked (r.markClosed x) :=
    ⟨h.linked.nodup, h.linked.mem_children, h.linked.nodup_children⟩
  -- no parent of a pending node is missing
  have hcount : (r.markClosed x).missingParentCount = r.missingParentCount := by
    have hzero : r.missingParentCount x = 0 := by
      rw [h.counts.count_eq x hx, Int.natCast_eq_zero, countP_eq_zero]
      intro p hp hp'
      exact of_decide_eq_true hp' (hready p hp)
    rw [markClosed, ← hzero, Function.update_eq_self]
  have hwaiting : ∀ c, c ∈ (r.markClosed x).waiting x ↔ c ∈ r.cids ∧ x ∈ r.parentsOf c := by
    intro c
    rw [hmarked.mem_waiting]
    exact ⟨fun hc => ⟨hc.1, hc.2.2⟩, fun hc =>
      ⟨hc.1, h.counts.notMem_of_parent mem_cons_self hc.2, hc.2⟩⟩
  refine ⟨⟨h.linked.nodup, h.linked.mem_children, h.linked.nodup_children⟩, ?_, ?_⟩
  . rw [countedDown, hcount]
    exact h.counts.finish (List.Perm.refl _) (fun c hc => h.linked.nodup_parentsOf hc)
      (fun _ _ => List.Perm.refl _) ((h.linked.nodup_children x).filter _) hwaiting
  . intro c hc
    rcases Finset.mem_insert.mp hc with rfl | hc
    . obtain ⟨_, hn, rfl⟩ := mem_map.mp hx
      have hpars := parents_of_mem h.linked.nodup hn
      rw [parentsOf, hpars] at hready
      exact Dag.Closed.intro hpars fun p hp => h.sound p (hready p hp)
    . exact h.sound c hc

def openCids (r : Replica) : List String :=
  r.cids.filter (· ∉ r.causallyClosed)

theorem closeCausality_frame (fuel : ℕ) (r : Replica) (pending : List String)
    : ∃ causallyClosed missingParentCount, closeCausality fuel r pending =
      { r with causallyClosed, missingParentCount } := by
  induction fuel generalizing r pending with
  | zero => exact ⟨_, _, rfl⟩
  | succ fuel ih =>
    cases pending with
    | nil => exact ⟨_, _, rfl⟩
    | cons x pending =>
      by_cases hx : x ∈ r.causallyClosed
      . rw [closeCausality, if_pos hx]
        exact ih r pending
      . rw [closeCausality_cons hx]
        obtain ⟨closed, count, h⟩ := ih _ _
        exact ⟨closed, count, h⟩

theorem Closing.closeCausality (h : Closing r pending) (hfuel : r.openCids.length < fuel)
    : Closing (closeCausality fuel r pending) [] := by
  induction fuel generalizing r pending with
  | zero => exact absurd hfuel (Nat.not_lt_zero _)
  | succ fuel ih =>
    cases pending with
    | nil => exact h
    | cons x pending =>
      obtain ⟨hx, hopen, -⟩ := (h.counts.mem_pending x).mp mem_cons_self
      rw [closeCausality_cons hopen]
      apply ih h.step
      exact Nat.lt_of_lt_of_le (Countdown.length_filter_insert_lt hx hopen)
        (Nat.le_of_lt_succ hfuel)

theorem foldl_linkParent (node : DAGNode) (ps : List String) (r : Replica)
    : ps.foldl (linkParent node) r =
      { r with
        children := fun p => if p ∈ ps then (r.children p).insert node.cid else r.children p
        heads := r.heads.filter fun h => ¬(h ∈ ps ∧ h ∈ r.cids) } := by
  induction ps generalizing r with
  | nil => simp
  | cons q ps ih =>
    rw [foldl_cons, ih]
    have hcids : (linkParent node r q).cids = r.cids := rfl
    simp only [hcids]
    simp only [linkParent, Replica.mk.injEq, true_and, and_true]
    constructor
    . funext p
      by_cases hpq : p = q
      . subst hpq
        by_cases hp : p ∈ ps
        . simp [hp]
        . simp [hp]
      . simp [hpq]
    . ext h
      by_cases hhq : h = q
      . subst hhq
        by_cases hh : h ∈ r.cids
        . simp [hh]
        . simp [hh]
      . by_cases hq : q ∈ r.cids
        . simp [hq, hhq]
        . simp [hq, hhq]

section Link

variable (r node)

theorem cids_link : (r.link node).cids = r.cids ++ [node.cid] := by
  simp [link, foldl_linkParent, cids]

theorem children_link (p : String)
    : (r.link node).children p =
      if p ∈ node.parentCids then (r.children p).insert node.cid else r.children p := by
  simp [link, foldl_linkParent]

theorem nodes_link : (r.link node).nodes = r.nodes ++ [node] := by
  simp [link, foldl_linkParent]

theorem mem_heads_link (c : String)
    : c ∈ (r.link node).heads ↔ (c = node.cid ∨ c ∈ r.heads) ∧
      ¬(c ∈ node.parentCids ∧ c ∈ (r.link node).cids) ∧
      ¬(c = node.cid ∧ ∃ d ∈ (r.link node).children node.cid, d ∈ (r.link node).cids) := by
  have hheads : (r.link node).heads =
      if ((r.link node).children node.cid).any (· ∈ (r.link node).cids) then
        ((insert node.cid r.heads).filter fun h =>
          ¬(h ∈ node.parentCids ∧ h ∈ (r.link node).cids)).erase node.cid
      else (insert node.cid r.heads).filter fun h =>
        ¬(h ∈ node.parentCids ∧ h ∈ (r.link node).cids) := by
    rw [link, foldl_linkParent]
    rfl
  rw [hheads]
  split
  . next hany =>
    have hex : ∃ d ∈ (r.link node).children node.cid, d ∈ (r.link node).cids := by
      simpa only [any_eq_true, decide_eq_true_eq] using hany
    rw [Finset.mem_erase, Finset.mem_filter, Finset.mem_insert, and_iff_left hex]
    tauto
  . next hany =>
    have hex : ¬∃ d ∈ (r.link node).children node.cid, d ∈ (r.link node).cids := by
      simpa only [any_eq_true, decide_eq_true_eq] using hany
    rw [Finset.mem_filter, Finset.mem_insert]
    simp [hex]

end Link

theorem Linked.link (h : Linked r) (hnew : node.cid ∉ r.cids) : Linked (r.link node) := by
  refine ⟨?_, ?_, ?_⟩
  . rw [cids_link]
    exact nodup_append_comm.mp (nodup_cons.mpr ⟨hnew, h.nodup⟩)
  . intro p c
    rw [children_link, nodes_link]
    simp only [mem_append, mem_singleton, or_and_right, exists_or, exists_eq_left, ← h.mem_children]
    split
    . next hp =>
      rw [mem_insert_iff]
      tauto
    . next hp => tauto
  . intro p
    rw [children_link]
    split
    . exact (h.nodup_children p).insert
    . exact h.nodup_children p

def HeadsExact (r : Replica) : Prop :=
  ∀ c, c ∈ r.heads ↔ c ∈ r.cids ∧ ∀ n ∈ r.nodes, c ∉ n.parentCids

theorem HeadsExact.link (h : HeadsExact r) (hlinked : Linked r) (hnew : node.cid ∉ r.cids)
    : HeadsExact (r.link node) := by
  intro c
  have hchildren : (∃ d ∈ (r.link node).children node.cid, d ∈ (r.link node).cids) ↔
      ∃ n ∈ (r.link node).nodes, node.cid ∈ n.parentCids := by
    constructor
    . rintro ⟨d, hd, -⟩
      obtain ⟨n, hn, -, hparent⟩ := ((hlinked.link hnew).mem_children _ _).mp hd
      exact ⟨n, hn, hparent⟩
    . rintro ⟨n, hn, hparent⟩
      exact ⟨n.cid, ((hlinked.link hnew).mem_children _ _).mpr ⟨n, hn, rfl, hparent⟩,
        mem_map_of_mem hn⟩
  rw [mem_heads_link, h c, hchildren, cids_link, nodes_link]
  simp only [mem_append, mem_singleton]
  constructor
  . rintro ⟨hc, hparent, hself⟩
    rcases hc with rfl | ⟨hc, hnames⟩
    . exact ⟨.inr rfl, fun n hn hname => hself ⟨rfl, n, hn, hname⟩⟩
    . refine ⟨.inl hc, ?_⟩
      rintro n (hn | rfl)
      . exact hnames n hn
      . exact fun hname => hparent ⟨hname, .inl hc⟩
  . rintro ⟨hc, hnames⟩
    refine ⟨?_, fun hparent => hnames node (.inr rfl) hparent.1, ?_⟩
    . exact hc.symm.imp id fun hc => ⟨hc, fun n hn => hnames n (.inl hn)⟩
    . rintro ⟨rfl, n, hn, hname⟩
      exact hnames n hn hname

structure Indexed (r : Replica) : Prop extends Closing r [] where
  heads : HeadsExact r

theorem parents_link (r : Replica) (node : DAGNode) (c : String)
    : (r.link node).parents c =
      (r.parents c).or (if node.cid = c then some node.parentCids else none) := by
  simp only [parents, get, nodes_link, find?_append, find?_singleton, decide_eq_true_eq]
  cases r.nodes.find? (·.cid = c) with
  | none => by_cases hc : node.cid = c <;> simp [hc]
  | some n => rfl

theorem parents_link_self (hnew : node.cid ∉ r.cids)
    : (r.link node).parents node.cid = some node.parentCids := by
  have hnone : r.parents node.cid = none := by
    rw [← Option.not_isSome_iff_eq_none, parents_isSome]
    exact hnew
  rw [parents_link, hnone, if_pos rfl]
  rfl

def count (r : Replica) (node : DAGNode) : Replica :=
  { r.link node with
    missingParentCount := Function.update (r.link node).missingParentCount node.cid
      (node.parentCids.countP (· ∉ (r.link node).causallyClosed)) }

def ready (r : Replica) (node : DAGNode) : List String :=
  if node.parentCids.countP (· ∉ r.causallyClosed) = 0 then [node.cid] else []

theorem store_of_new (hnew : node.cid ∉ r.cids)
    : r.store node =
      closeCausality ((r.count node).nodes.length + 1) (r.count node) (r.ready node) := by
  have hclosed : (r.link node).causallyClosed = r.causallyClosed := by
    simp [Replica.link, foldl_linkParent]
  rw [store, if_neg hnew, ready]
  simp only [hclosed]
  split
  . simp only [count, hclosed]
  . simp only [count, hclosed]
    rfl

theorem store_frame (hnew : node.cid ∉ r.cids)
    : ∃ causallyClosed missingParentCount,
      r.store node = { r.count node with causallyClosed, missingParentCount } := by
  rw [store_of_new hnew]
  exact closeCausality_frame _ _ _

theorem Indexed.count (h : Indexed r) (hnew : node.cid ∉ r.cids)
    : Closing (r.count node) (r.ready node) := by
  have hclosed : (r.count node).causallyClosed = r.causallyClosed := by
    simp [Replica.count, Replica.link, foldl_linkParent]
  have hlinked := h.linked.link hnew
  refine ⟨⟨hlinked.nodup, hlinked.mem_children, hlinked.nodup_children⟩, ?_, ?_⟩
  . have hself : (r.count node).parentsOf node.cid = node.parentCids := by
      rw [parentsOf, show (r.count node).parents node.cid = _ from parents_link_self hnew]
      rfl
    have hknown : ∀ c, c ∈ (r.count node).cids ↔ c ∈ r.cids ∨ c = node.cid := by
      intro c
      rw [show (r.count node).cids = _ from cids_link r node, mem_append, mem_singleton]
    have hpars : ∀ c, c ∈ r.cids → (r.count node).parentsOf c = r.parentsOf c := by
      intro c hc
      have hne : c ≠ node.cid := fun heq => hnew (heq ▸ hc)
      rw [parentsOf, show (r.count node).parents c = _ from parents_link .., if_neg (Ne.symm hne),
        Option.or_none]
      rfl
    have hadd := h.counts.add hnew hknown hpars
    rw [hself] at hadd
    have hcount : (r.count node).missingParentCount = Function.update r.missingParentCount node.cid
          (node.parentCids.countP (· ∉ r.causallyClosed) : ℕ) := by
      simp [Replica.count, Replica.link, foldl_linkParent]
    rw [hclosed, hcount]
    exact hadd
  . intro c hc
    rw [hclosed] at hc
    apply (h.sound c hc).mono
    intro d ps hps
    show (r.link node).parents d = _
    rw [parents_link, hps]
    rfl

theorem Indexed.store (h : Indexed r) (node : DAGNode) : Indexed (r.store node) := by
  by_cases hnew : node.cid ∈ r.cids
  . rw [Replica.store, if_pos hnew]
    exact h
  . have hcounted := h.count hnew
    have hfuel : (r.count node).openCids.length < (r.count node).nodes.length + 1 := by
      apply Nat.lt_succ_of_le
      apply (length_filter_le _ _).trans
      rw [cids, length_map]
    refine ⟨store_of_new hnew ▸ hcounted.closeCausality hfuel, ?_⟩
    obtain ⟨_, _, hframe⟩ := store_frame hnew
    rw [hframe]
    exact h.heads.link h.linked hnew

theorem Indexed.new (agentId : String) (rejectUnverified : Bool)
    : Indexed (new agentId rejectUnverified) where
  linked := ⟨nodup_nil, by simp [Replica.new], fun _ => nodup_nil⟩
  counts := ⟨by simp [Replica.new, cids], by simp [Replica.new, cids], by simp [Replica.new],
    nodup_nil⟩
  sound := by simp [Replica.new]
  heads := by simp [HeadsExact, Replica.new, cids]

theorem Indexed.mem_causallyClosed (h : Indexed r) (c : String)
    : c ∈ r.causallyClosed ↔ Dag.Closed r.parents c := by
  constructor
  . exact h.sound c
  . intro hclosed
    induction hclosed with
    | @intro c ps hps hall ih =>
      by_contra hopen
      have hc : c ∈ r.cids := parents_isSome.mp (by rw [hps]; rfl)
      have hready : ∀ p ∈ r.parentsOf c, p ∈ r.causallyClosed := by
        rw [parentsOf, hps]
        exact ih
      cases (h.counts.mem_pending c).mpr ⟨hc, hopen, hready⟩

end Replica

end Merkle
