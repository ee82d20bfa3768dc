import ConstitutionalSwarm.Data.PyJsonLemmas

namespace PyJson

open List Smallest

variable {constants : Bool}

theorem wellFormedElems_iff {vs : List PyValue}
    : WellFormedElems constants vs ↔ ∀ v ∈ vs, WellFormed constants v := by
  induction vs with
  | nil => simp [WellFormedElems]
  | cons v vs ih => rw [WellFormedElems, ih, forall_mem_cons]

variable {fs : List (String × PyValue)}

theorem wellFormedFields_iff
    : WellFormedFields constants fs ↔ ∀ f ∈ fs, WellFormed constants f.2 := by
  induction fs with
  | nil => simp [WellFormedFields]
  | cons f fs ih => rw [WellFormedFields, ih, forall_mem_cons]

mutual

theorem WellFormed.of_false (v : PyValue) (hv : WellFormed false v) : WellFormed constants v := by
  match v with
  | .none | .bool _ | .str _ => trivial
  | .int _ | .float (.finite _) => exact hv
  | .float (.inf _) | .float .nan => cases hv
  | .list vs => exact wellFormedElems_of_false vs hv
  | .dict fs => exact ⟨hv.1, wellFormedFields_of_false fs hv.2⟩

theorem wellFormedElems_of_false (vs : List PyValue) (hvs : WellFormedElems false vs)
    : WellFormedElems constants vs := by
  match vs with
  | [] => trivial
  | v :: vs => exact ⟨.of_false v hvs.1, wellFormedElems_of_false vs hvs.2⟩

theorem wellFormedFields_of_false (fs : List (String × PyValue)) (hfs : WellFormedFields false fs)
    : WellFormedFields constants fs := by
  match fs with
  | [] => trivial
  | f :: fs => exact ⟨.of_false f.2 hfs.1, wellFormedFields_of_false fs hfs.2⟩

end

theorem sortKeysFields_eq_map (fs : List (String × PyValue))
    : sortKeysFields fs = fs.map fun f => (f.1, sortKeys f.2) := by
  induction fs with
  | nil => rfl
  | cons f fs ih => rw [sortKeysFields, ih, map_cons]

theorem keys_sortKeysFields (fs : List (String × PyValue))
    : (sortKeysFields fs).map Prod.fst = fs.map Prod.fst := by
  rw [sortKeysFields_eq_map, map_map]
  rfl

theorem unique_sortKeysFields (h : (fs.map Prod.fst).Nodup)
    : Assoc.Unique (sortBy Prod.fst (sortKeysFields fs)) := by
  unfold Assoc.Unique
  rw [((sortBy_perm (sortKeysFields fs)).map Prod.fst).nodup_iff, keys_sortKeysFields]
  exact h

mutual

theorem wellFormed_sortKeys (v : PyValue) (hv : WellFormed constants v)
    : WellFormed constants (sortKeys v) := by
  match v with
  | .none | .bool _ | .int _ | .float _ | .str _ =>
    rw [sortKeys]
    exact hv
  | .list vs => exact wellFormedElems_sortKeys vs hv
  | .dict fs =>
    refine ⟨unique_sortKeysFields hv.1, ?_⟩
    rw [wellFormedFields_iff]
    intro f hf
    have hflds := wellFormedFields_sortKeys fs hv.2
    rw [wellFormedFields_iff] at hflds
    exact hflds f ((sortBy_perm _).mem_iff.mp hf)

theorem wellFormedElems_sortKeys (vs : List PyValue) (hvs : WellFormedElems constants vs)
    : WellFormedElems constants (sortKeysElems vs) := by
  cases vs with
  | nil => trivial
  | cons v vs => exact ⟨wellFormed_sortKeys v hvs.1, wellFormedElems_sortKeys vs hvs.2⟩

theorem wellFormedFields_sortKeys (fs : List (String × PyValue))
    (hfs : WellFormedFields constants fs) : WellFormedFields constants (sortKeysFields fs) := by
  cases fs with
  | nil => trivial
  | cons f fs => exact ⟨wellFormed_sortKeys f.2 hfs.1, wellFormedFields_sortKeys fs hfs.2⟩

end

theorem lookup_sortKeys (h : (fs.map Prod.fst).Nodup) (k : String)
    : (sortBy Prod.fst (sortKeysFields fs)).lookup k = (fs.lookup k).map sortKeys := by
  have huniq := unique_sortKeysFields h
  ext v
  rw [huniq.lookup_eq_some, (sortBy_perm _).mem_iff, sortKeysFields_eq_map, Option.map_eq_some_iff]
  constructor
  . intro hmem
    obtain ⟨f, hf, heq⟩ := mem_map.mp hmem
    rw [Prod.mk.injEq] at heq
    refine ⟨f.2, ?_, heq.2⟩
    rw [Assoc.Unique.lookup_eq_some h, ← heq.1]
    exact hf
  . rintro ⟨w, hw, rfl⟩
    exact mem_map.mpr ⟨(k, w), Assoc.mem_of_lookup hw, rfl⟩

theorem lookup_of_dumps_eq {r : Reading} {repr : ℚ → String} (hread : r.Reads repr) {style : Style}
    {gs : List (String × PyValue)} (hfs : WellFormed r.constants (.dict fs))
    (hgs : WellFormed r.constants (.dict gs))
    (h : dumps style repr (sortKeys (.dict fs)) = dumps style repr (sortKeys (.dict gs)))
    (k : String) : (fs.lookup k).map sortKeys = (gs.lookup k).map sortKeys := by
  have hloads := loads_dumps hread style (wellFormed_sortKeys _ hfs)
  rw [h, loads_dumps hread style (wellFormed_sortKeys _ hgs), Option.some.injEq] at hloads
  simp only [sortKeys, PyValue.dict.injEq] at hloads
  rw [← lookup_sortKeys hfs.1, ← lookup_sortKeys hgs.1, hloads]

def sortedFields (fs : List (String × PyValue)) : List (String × PyValue) :=
  Smallest.sortBy Prod.fst (sortKeysFields fs)

theorem sortKeys_dict (fs : List (String × PyValue))
    : sortKeys (.dict fs) = .dict (sortedFields fs) := by
  rw [sortKeys]
  rfl

theorem sortedFields_perm (fs : List (String × PyValue))
    : (sortedFields fs).Perm (fs.map fun f => (f.1, sortKeys f.2)) :=
  sortKeysFields_eq_map fs ▸ sortBy_perm _

theorem lookup_sortedFields (h : (fs.map Prod.fst).Nodup) (k : String)
    : (sortedFields fs).lookup k = (fs.lookup k).map sortKeys :=
  lookup_sortKeys h k

theorem sortKeysElems_eq_map (vs : List PyValue) : sortKeysElems vs = vs.map sortKeys := by
  induction vs with
  | nil => rfl
  | cons v vs ih => rw [sortKeysElems, ih, map_cons]

theorem sortedFields_of_sorted (hvalues : ∀ f ∈ fs, sortKeys f.2 = f.2)
    (hsort : fs.Pairwise fun f g => f.1 ≤ g.1)
    : sortedFields fs = fs := by
  have hmap : sortKeysFields fs = fs := by
    rw [sortKeysFields_eq_map]
    refine (map_congr_left ?_).trans (map_id _)
    intro f hf
    rw [hvalues f hf]
    rfl
  rw [sortedFields, hmap, sortBy]
  exact Pairwise.insertionSort_eq hsort

mutual

theorem sortKeys_sortKeys (v : PyValue) : sortKeys (sortKeys v) = sortKeys v := by
  match v with
  | .none | .bool _ | .int _ | .float _ | .str _ => rfl
  | .list vs =>
    rw [sortKeys, sortKeys, sortKeysElems_sortKeysElems vs]
  | .dict fs =>
    rw [sortKeys_dict, sortKeys_dict, sortedFields_of_sorted]
    . intro f hf
      obtain ⟨g, hg, rfl⟩ := mem_map.mp ((sortedFields_perm fs).mem_iff.mp hf)
      exact sortKeys_fields fs g hg
    . exact pairwise_sortBy Prod.fst _

theorem sortKeysElems_sortKeysElems (vs : List PyValue)
    : sortKeysElems (sortKeysElems vs) = sortKeysElems vs := by
  match vs with
  | [] => rfl
  | v :: vs =>
    rw [sortKeysElems, sortKeysElems, sortKeys_sortKeys v, sortKeysElems_sortKeysElems vs]

theorem sortKeys_fields (fs : List (String × PyValue))
    : ∀ f ∈ fs, sortKeys (sortKeys f.2) = sortKeys f.2 := by
  match fs with
  | [] => simp
  | f :: fs =>
    exact forall_mem_cons.mpr ⟨sortKeys_sortKeys f.2, sortKeys_fields fs⟩

end

theorem sortedFields_eq_of_perm {gs : List (String × PyValue)} (h : (fs.map Prod.fst).Nodup)
    (hperm : (sortKeysFields fs).Perm (sortKeysFields gs)) : sortedFields fs = sortedFields gs := by
  have hsort : (sortedFields fs).Perm (sortedFields gs) :=
    (sortBy_perm _).trans (hperm.trans (sortBy_perm _).symm)
  have huniq := unique_sortKeysFields h
  apply List.Perm.eq_of_pairwise ?_ (pairwise_sortBy Prod.fst _) (pairwise_sortBy Prod.fst _) hsort
  intro f g hf hg hle hge
  have hkey : f.1 = g.1 := le_antisymm hle hge
  have hf' := huniq.lookup_eq_some.mpr (show (f.1, f.2) ∈ _ from hf)
  have hg' := huniq.lookup_eq_some.mpr (show (g.1, g.2) ∈ _ from hsort.mem_iff.mpr hg)
  rw [hkey, hg', Option.some.injEq] at hf'
  exact Prod.ext hkey hf'.symm

theorem sortedFields_filter (h : (fs.map Prod.fst).Nodup) (p : String → Bool)
    : sortedFields (fs.filter fun f => p f.1) = (sortedFields fs).filter fun f => p f.1 := by
  have hinner : sortedFields ((sortedFields fs).filter fun f => p f.1) =
      (sortedFields fs).filter fun f => p f.1 := by
    apply sortedFields_of_sorted
    . intro f hf
      obtain ⟨g, -, rfl⟩ := mem_map.mp ((sortedFields_perm fs).mem_iff.mp (mem_of_mem_filter hf))
      exact sortKeys_sortKeys g.2
    . exact (pairwise_sortBy Prod.fst _).filter _
  rw [← hinner]
  apply sortedFields_eq_of_perm
  . exact h.sublist (filter_sublist.map _)
  . have hperm := (((sortedFields_perm fs).filter fun f => p f.1).map
      fun f => (f.1, sortKeys f.2)).symm
    rw [filter_map, map_map] at hperm
    simp only [Function.comp_def, sortKeys_sortKeys] at hperm
    rw [sortKeysFields_eq_map, sortKeysFields_eq_map]
    exact hperm

end PyJson
