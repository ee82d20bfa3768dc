import ConstitutionalSwarm.Merkle.Runs

namespace Merkle

open Raising List

namespace Replica

section Walks

variable (r : Replica)

structure Search where
  pending : List String
  seen : List String
  missing : List String

def searchLoop (limit maxScan : ℕ) (pending seen missing : List String) (scanned : ℕ) : Search :=
  match pending with
  | [] => ⟨[], seen, missing⟩
  | cid :: pending =>
    if missing.length < limit ∧ scanned < maxScan then
      if cid ∈ seen then searchLoop limit maxScan pending seen missing scanned
      else if cid ∈ r.causallyClosed then
        searchLoop limit maxScan pending (cid :: seen) missing (scanned + 1)
      else match r.get cid with
        | none => searchLoop limit maxScan pending (cid :: seen) (missing ++ [cid]) (scanned + 1)
        | some node =>
          searchLoop limit maxScan (node.parentCids.mergeSort ++ pending) (cid :: seen) missing
            (scanned + 1)
    else ⟨cid :: pending, seen, missing⟩
termination_by (maxScan - scanned, pending.length)

def missingAncestry (frontier : List String) (limit scanLimit : ℕ)
    : Except (List String) (List String) :=
  let search := r.searchLoop limit scanLimit (sortedSet frontier) [] [] 0
  let checkpoints := (search.pending.filter fun cid =>
    cid ∉ search.seen ∧ cid ∉ r.causallyClosed).take limit
  if checkpoints ≠ [] ∧ search.missing = [] then .error checkpoints.mergeSort
  else .ok search.missing.mergeSort

end Walks

variable {r : Replica}

structure Explores (r : Replica) (frontier : List String) (s : Search) : Prop where
  covers : ∀ c ∈ frontier, c ∈ s.seen ∨ c ∈ s.pending
  explored : ∀ c ∈ s.seen, c ∈ r.causallyClosed ∨ c ∈ s.missing ∨
    ∃ n, r.get c = some n ∧ ∀ p ∈ n.parentCids, p ∈ s.seen ∨ p ∈ s.pending

variable {frontier pending seen missing : List String} {limit : ℕ}

theorem Explores.take (h : Explores r frontier ⟨cid :: pending, seen, missing⟩) (more : List String)
    (hmiss : missing ⊆ missing') (hcid : cid ∈ r.causallyClosed ∨ cid ∈ missing' ∨
      ∃ n, r.get cid = some n ∧ ∀ p ∈ n.parentCids, p ∈ more)
    : Explores r frontier ⟨more ++ pending, cid :: seen, missing'⟩ := by
  have hkeep : ∀ c, c ∈ seen ∨ c ∈ cid :: pending → c ∈ cid :: seen ∨ c ∈ more ++ pending := by
    intro c hc
    simp only [mem_cons, mem_append] at hc ⊢
    tauto
  refine ⟨fun c hc => hkeep c (h.covers c hc), ?_⟩
  intro c hc
  rcases mem_cons.mp hc with rfl | hc
  . rcases hcid with hclosed | hmiss | ⟨n, hn, hpars⟩
    . exact .inl hclosed
    . exact .inr (.inl hmiss)
    . exact .inr (.inr ⟨n, hn, fun p hp => .inr (mem_append_left _ (hpars p hp))⟩)
  . rcases h.explored c hc with hclosed | hfound | ⟨n, hn, hpars⟩
    . exact .inl hclosed
    . exact .inr (.inl (hmiss hfound))
    . exact .inr (.inr ⟨n, hn, fun p hp => hkeep p (hpars p hp)⟩)

theorem Explores.skip (h : Explores r frontier ⟨cid :: pending, seen, missing⟩) (hseen : cid ∈ seen)
    : Explores r frontier ⟨pending, seen, missing⟩ := by
  have hkeep : ∀ c, c ∈ seen ∨ c ∈ cid :: pending → c ∈ seen ∨ c ∈ pending := by
    intro c hc
    rcases hc with hc | hc
    . exact .inl hc
    . rcases mem_cons.mp hc with rfl | hc
      . exact .inl hseen
      . exact .inr hc
  refine ⟨fun c hc => hkeep c (h.covers c hc), ?_⟩
  intro c hc
  rcases h.explored c hc with hclosed | hfound | ⟨n, hn, hpars⟩
  . exact .inl hclosed
  . exact .inr (.inl hfound)
  . exact .inr (.inr ⟨n, hn, fun p hp => hkeep p (hpars p hp)⟩)

theorem Explores.searchLoop (h : Explores r frontier ⟨pending, seen, missing⟩)
    : Explores r frontier (r.searchLoop limit maxScan pending seen missing scanned) := by
  fun_induction Replica.searchLoop with
  | case1 => exact h
  | case2 seen missing scanned cid pending hbounds hseen ih => exact ih (h.skip hseen)
  | case3 seen missing scanned cid pending hbounds hseen hclosed ih =>
    exact ih (h.take [] (List.Subset.refl _) (.inl hclosed))
  | case4 seen missing scanned cid pending hbounds hseen hclosed hget ih =>
    exact ih (h.take [] (subset_append_left _ _)
      (.inr (.inl (mem_append_right _ (mem_singleton_self cid)))))
  | case5 seen missing scanned cid pending hbounds hseen hclosed node hget ih =>
    refine ih (h.take _ (List.Subset.refl _) (.inr (.inr ⟨node, hget, ?_⟩)))
    intro p hp
    exact mem_mergeSort.mpr hp
  | case6 => exact h

theorem mem_sortedSet {cids c} : c ∈ sortedSet cids ↔ c ∈ cids := by
  simp [sortedSet]

theorem missingAncestry_eq_nil (hlimit : 0 < limit)
    (h : r.missingAncestry frontier limit scanLimit = .ok [])
    : ∃ search, Explores r frontier search ∧ search.missing = [] ∧
      ∀ c ∈ search.pending, c ∈ search.seen ∨ c ∈ r.causallyClosed := by
  have hstart : Explores r frontier ⟨sortedSet frontier, [], []⟩ :=
    ⟨fun c hc => .inr (mem_sortedSet.mpr hc), fun c hc => absurd hc not_mem_nil⟩
  refine ⟨r.searchLoop limit scanLimit (sortedSet frontier) [] [] 0, hstart.searchLoop, ?_⟩
  simp only [missingAncestry] at h
  generalize r.searchLoop limit scanLimit (sortedSet frontier) [] [] 0 = search at h
  split at h
  . cases h
  . next hnot =>
    rw [Except.ok.injEq, ← length_eq_zero_iff, length_mergeSort, length_eq_zero_iff] at h
    refine ⟨h, ?_⟩
    rw [not_and_or, not_ne_iff, take_eq_nil_iff] at hnot
    have hnone := (hnot.resolve_right fun hne => hne h).resolve_left hlimit.ne'
    intro c hc
    by_contra hopen
    rw [not_or] at hopen
    rw [filter_eq_nil_iff] at hnone
    exact hnone c hc (decide_eq_true hopen)

theorem Indexed.complete_of_missingAncestry (h : Indexed r) (hlimit : 0 < limit)
    (hmiss : r.missingAncestry frontier limit scanLimit = .ok []) (hc : c ∈ frontier)
    : Dag.Complete r.parents c := by
  obtain ⟨search, hexplores, hnone, hpend⟩ := missingAncestry_eq_nil hlimit hmiss
  have hmet : ∀ {d}, d ∈ search.seen ∨ d ∈ search.pending →
      d ∈ search.seen ∨ d ∈ r.causallyClosed := fun hd => hd.elim .inl (hpend _)
  have hstored : ∀ {d}, d ∈ search.seen ∨ d ∈ r.causallyClosed → (r.parents d).isSome ∧
      ∀ p, Dag.IsParent r.parents p d → p ∈ search.seen ∨ p ∈ r.causallyClosed := by
    intro d hd
    have hclosed : d ∈ r.causallyClosed → (r.parents d).isSome ∧
        ∀ p, Dag.IsParent r.parents p d → p ∈ search.seen ∨ p ∈ r.causallyClosed := by
      intro hd
      rw [h.mem_causallyClosed] at hd
      exact ⟨hd.isSome, fun p hp => .inr ((h.mem_causallyClosed p).mpr (hd.of_isParent hp))⟩
    rcases hd with hd | hd
    . rcases hexplores.explored d hd with hd | hd | ⟨n, hn, hpars⟩
      . exact hclosed hd
      . exact absurd (hnone ▸ hd) not_mem_nil
      . have hps : r.parents d = some n.parentCids := by rw [parents, hn]; rfl
        refine ⟨hps ▸ rfl, ?_⟩
        rintro p ⟨ps, hps', hp⟩
        rw [hps, Option.some.injEq] at hps'
        exact hmet (hpars p (hps' ▸ hp))
    . exact hclosed hd
  intro a ha
  -- what the frontier reaches is seen or closed, by induction on the way up
  have hreached : a ∈ search.seen ∨ a ∈ r.causallyClosed := by
    induction ha using Relation.ReflTransGen.head_induction_on with
    | refl => exact hmet (hexplores.covers c hc)
    | head hparent _ ih => exact (hstored ih).2 _ hparent
  exact (hstored hreached).1

theorem Indexed.closed_or_hasCycle (h : Indexed r) (hc : Dag.Complete r.parents c)
    : c ∈ r.causallyClosed ∨ r.HasCycle := by
  by_contra hnot
  rw [not_or] at hnot
  apply hnot.1
  rw [h.mem_causallyClosed, Dag.closed_iff (finite_parents r)]
  exact ⟨hc, fun ⟨a, _, hcycle⟩ => hnot.2 ⟨a, hcycle⟩⟩

def Above (r : Replica) (frontier : List String) (c : String) : Prop :=
  ∃ f ∈ frontier, Relation.ReflTransGen (Dag.IsParent r.parents) c f

structure Climbs (r : Replica) (frontier : List String) (limit : ℕ) (s : Search) : Prop where
  above : ∀ c ∈ s.pending, r.Above frontier c
  missing : ∀ c ∈ s.missing, c ∉ r.cids ∧ r.Above frontier c
  length_le : s.missing.length ≤ limit

theorem Climbs.searchLoop (h : Climbs r frontier limit ⟨pending, seen, missing⟩)
    : Climbs r frontier limit (r.searchLoop limit maxScan pending seen missing scanned) := by
  fun_induction Replica.searchLoop with
  | case1 => exact h
  | case2 seen missing scanned cid pending hbounds hseen ih =>
    exact ih ⟨(forall_mem_cons.mp h.above).2, h.missing, h.length_le⟩
  | case3 seen missing scanned cid pending hbounds hseen hclosed ih =>
    exact ih ⟨(forall_mem_cons.mp h.above).2, h.missing, h.length_le⟩
  | case4 seen missing scanned cid pending hbounds hseen hclosed hget ih =>
    obtain ⟨hcid, habove⟩ := forall_mem_cons.mp h.above
    refine ih ⟨habove, ?_, ?_⟩
    . rw [forall_mem_append, forall_mem_singleton]
      refine ⟨h.missing, ?_, hcid⟩
      rw [← get_isSome, hget]
      exact Bool.false_ne_true
    . rw [length_append]
      exact hbounds.1
  | case5 seen missing scanned cid pending hbounds hseen hclosed node hget ih =>
    obtain ⟨⟨f, hf, hcid⟩, habove⟩ := forall_mem_cons.mp h.above
    refine ih ⟨forall_mem_append.mpr ⟨?_, habove⟩, h.missing, h.length_le⟩
    intro p hp
    have hpars : r.parents cid = some node.parentCids := by rw [parents, hget]; rfl
    exact ⟨f, hf, .head ⟨_, hpars, mem_mergeSort.mp hp⟩ hcid⟩
  | case6 => exact h

theorem mem_checkpoints {p : String → Bool} (h : c ∈ ((pending.filter p).take limit).mergeSort)
    : c ∈ pending ∧ p c :=
  mem_filter.mp (mem_of_mem_take (mem_mergeSort.mp h))

theorem missingAncestry_exact [Apcc.Platform] [Interpreter] (h : Reached r) (hlimit : 0 < limit)
    (frontier : List String) (scanLimit : ℕ)
    : match r.missingAncestry frontier limit scanLimit with
      | .ok missing =>
        missing.length ≤ limit ∧ (∀ c ∈ missing, c ∉ r.cids ∧ r.Above frontier c) ∧
        (missing = [] ↔ ∀ c ∈ frontier, Dag.Complete r.parents c)
      | .error checkpoints =>
        checkpoints ≠ [] ∧ (∀ c ∈ checkpoints, r.Above frontier c) ∧
        ((∀ c ∈ checkpoints, ¬Dag.Complete r.parents c) ∨ r.HasCycle) := by
  have hstart : Climbs r frontier limit ⟨sortedSet frontier, [], []⟩ :=
    ⟨fun c hc => ⟨c, mem_sortedSet.mp hc, .refl⟩, fun c hc => absurd hc not_mem_nil, Nat.zero_le _⟩
  have hclimbs : Climbs r frontier limit
      (r.searchLoop limit scanLimit (sortedSet frontier) [] [] 0) := hstart.searchLoop
  have hidx := h.sound.toIndexed
  cases hans : r.missingAncestry frontier limit scanLimit with
  | ok missing =>
    have hcompl : missing = [] → ∀ c ∈ frontier, Dag.Complete r.parents c := by
      rintro rfl c hc
      exact hidx.complete_of_missingAncestry hlimit hans hc
    simp only [missingAncestry] at hans
    split at hans
    . cases hans
    . cases hans
      refine ⟨?_, fun c hc => hclimbs.missing c (mem_mergeSort.mp hc), hcompl, ?_⟩
      . rw [length_mergeSort]
        exact hclimbs.length_le
      . intro hall
        rw [eq_nil_iff_forall_not_mem]
        intro c hc
        obtain ⟨habsent, f, hf, hpath⟩ := hclimbs.missing c (mem_mergeSort.mp hc)
        exact habsent (parents_isSome.mp (hall f hf c hpath))
  | error checkpoints =>
    simp only [missingAncestry] at hans
    split at hans
    . next hnot =>
      cases hans
      refine ⟨?_, fun c hc => hclimbs.above c (mem_checkpoints hc).1, ?_⟩
      . rw [← length_pos_iff, length_mergeSort, length_pos_iff]
        exact hnot.1
      . by_cases hcycle : r.HasCycle
        . exact .inr hcycle
        . left
          intro c hc hcompl
          exact (of_decide_eq_true (mem_checkpoints hc).2).2
            ((hidx.closed_or_hasCycle hcompl).resolve_right hcycle)
    . cases hans

end Replica

end Merkle

namespace Merkle.Sample

open scoped Apcc.Sample JsonText.Sample

theorem missingAncestry_exact_replica
    : match replica.missingAncestry [childCid, "0"] 1 16 with
      | .ok missing => missing.length ≤ 1 ∧
        (missing = [] ↔ ∀ c ∈ [childCid, "0"], Dag.Complete replica.parents c)
      | .error checkpoints => checkpoints ≠ [] := by
  have hexact := Replica.missingAncestry_exact reached_replica Nat.one_pos [childCid, "0"] 16
  split at hexact
  . exact ⟨hexact.1, hexact.2.2⟩
  . exact hexact.1

end Merkle.Sample
