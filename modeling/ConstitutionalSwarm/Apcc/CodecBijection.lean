import ConstitutionalSwarm.Apcc.CodecLemmas
import ConstitutionalSwarm.Apcc.ModelReading

namespace Json

theorem mem_dict {α : Type} {pairs : List (String × α)} {p : String × α} (h : p ∈ dict pairs)
    : p ∈ pairs := by
  suffices ∀ d, p ∈ pairs.foldl (fun d p => dictSet p.1 p.2 d) d → p ∈ pairs ∨ p ∈ d by
    simpa using this [] h
  clear h
  induction pairs with
  | nil => exact fun d hd => .inr hd
  | cons q pairs ih =>
    intro d hd
    rcases ih _ hd with h | h
    . exact .inl (List.mem_cons_of_mem _ h)
    . rcases mem_dictSet h with rfl | h
      . exact .inl List.mem_cons_self
      . exact .inr h

theorem mem_sortKeysFields {fs : List (String × Json)} {p : String × Json}
    : p ∈ sortKeysFields fs ↔ ∃ q ∈ fs, (q.1, sortKeys q.2) = p := by
  induction fs with
  | nil => simp [sortKeysFields]
  | cons q fs ih => simp [sortKeysFields, ih, eq_comm]

mutual

theorem canonical_sortKeys : ∀ v : Json, v.sortKeys.Canonical
  | .null | .bool _ | .int _ | .str _ => by rw [sortKeys]; all_goals simp [Canonical]
  | .arr vs => by
    rw [sortKeys, Canonical]
    exact canonicalElems_sortKeys vs
  | .obj fs => by
    rw [sortKeys, Canonical, canonicalFields_iff]
    exact ⟨sortedKeys_dict _, fun f hf => canonicalFields_sortKeys fs f (mem_dict hf)⟩

theorem canonicalElems_sortKeys : ∀ vs : List Json, CanonicalElems (sortKeysElems vs)
  | [] => by rw [sortKeysElems, CanonicalElems]; trivial
  | v :: vs => by
    rw [sortKeysElems, CanonicalElems]
    exact ⟨canonical_sortKeys v, canonicalElems_sortKeys vs⟩

theorem canonicalFields_sortKeys
    : ∀ fs : List (String × Json), ∀ f ∈ sortKeysFields fs, f.2.Canonical
  | [] => by simp [sortKeysFields]
  | (k, v) :: fs => by
    intro f hf
    rw [sortKeysFields, List.mem_cons] at hf
    rcases hf with rfl | hf
    . exact canonical_sortKeys v
    . exact canonicalFields_sortKeys fs f hf

end

end Json

namespace Apcc

open Json

variable [Platform]

theorem treeFields_eq_ok {d : Nat} {fs u}
    : treeFields d fs = .ok u ↔ ∀ f ∈ fs, isAscii f.1 ∧ tree d f.2 = .ok () := by
  induction fs with
  | nil => simp [treeFields]
  | cons f fs ih => simp [treeFields, bind_eq_ok, exists_unit, ih, and_assoc]

mutual

theorem tree_sortKeys : ∀ {v : Json} {d : Nat}, tree d v = .ok () → tree d v.sortKeys = .ok ()
  | .null, _, h | .bool _, _, h | .int _, _, h => by simp [tree, bind_eq_ok, fail] at h
  | .str _, _, h => by rw [sortKeys]; exact h; all_goals simp
  | .arr vs, d, h => by
    simp only [tree, bind_eq_ok, exists_unit] at h
    simp only [sortKeys, tree, bind_eq_ok, exists_unit]
    exact ⟨h.1, treeElems_sortKeys h.2⟩
  | .obj fs, d, h => by
    simp only [tree, bind_eq_ok, exists_unit, treeFields_eq_ok] at h
    simp only [sortKeys, tree, bind_eq_ok, exists_unit, treeFields_eq_ok]
    exact ⟨h.1, fun f hf => treeFields_sortKeys h.2 f (mem_dict hf)⟩

theorem treeElems_sortKeys : ∀ {vs : List Json} {d : Nat}, treeElems d vs = .ok () →
    treeElems d (sortKeysElems vs) = .ok ()
  | [], _, _ => by rw [sortKeysElems]; rfl
  | _ :: _, _, h => by
    simp only [treeElems, bind_eq_ok, exists_unit] at h
    simp only [sortKeysElems, treeElems, bind_eq_ok, exists_unit]
    exact ⟨tree_sortKeys h.1, treeElems_sortKeys h.2⟩

theorem treeFields_sortKeys : ∀ {fs : Fields} {d : Nat},
    (∀ f ∈ fs, isAscii f.1 ∧ tree d f.2 = .ok ()) →
    ∀ f ∈ sortKeysFields fs, isAscii f.1 ∧ tree d f.2 = .ok ()
  | [], _, _ => by simp [sortKeysFields]
  | (k, v) :: fs, d, h => by
    intro f hf
    rw [sortKeysFields, List.mem_cons] at hf
    obtain ⟨hv, hfs⟩ := List.forall_mem_cons.mp h
    rcases hf with rfl | hf
    . exact ⟨hv.1, tree_sortKeys hv.2⟩
    . exact treeFields_sortKeys hfs f hf

end

theorem canonical_of_decode {raw schema} {n : Nat} {fields} (h : decode raw schema n = .ok fields)
    : (obj fields).Canonical ∧ canonical (.obj fields) = .ok raw := by
  simp only [decode, bind_eq_ok, exists_unit, raiseIf_eq_ok, decide_eq_false_iff_not, not_not,
    pure_inj] at h
  obtain ⟨value, hparse, fields', hflds, encoded, hcanon, henc, -, -, hflds'⟩ := h
  subst henc hflds'
  have hvalue : value = .obj fields' := by cases value <;> simp_all [fieldsOf, fail]
  have hsort : canonical value.sortKeys = .ok encoded := by
    simp only [canonical, bind_eq_ok, exists_unit, pure_inj] at hcanon
    exact (canonical_eq_ok (canonical_sortKeys value)).mpr ⟨tree_sortKeys hcanon.1, hcanon.2.symm⟩
  have heq := parse_canonical (canonical_sortKeys value) hsort hparse
  have hvalid := canonical_sortKeys value
  rw [← heq, hvalue] at hsort hvalid
  exact ⟨hvalid, hsort⟩

theorem sortByCanonical_of_pairwise {α : Type} {toObject : α → Json} {items members}
    (h : (items.map toObject).mapM canonical = .ok members)
    (hsort : members.Pairwise bytesLe) : sortByCanonical toObject items = .ok items := by
  have hkeyed : items.mapM (fun item => do return (← canonical (toObject item), item))
      = .ok (members.zip items) ∧ items.length = members.length := by
    clear hsort
    induction items generalizing members with
    | nil =>
      cases h
      exact ⟨rfl, rfl⟩
    | cons item items ih =>
      rw [List.map_cons, List.mapM_cons, bind_eq_ok] at h
      obtain ⟨_, hraw, h⟩ := h
      rw [bind_eq_ok] at h
      obtain ⟨_, hraws, h⟩ := h
      cases h
      obtain ⟨hkeyed, hlen⟩ := ih hraws
      refine ⟨?_, by simpa using hlen⟩
      rw [List.mapM_cons, hkeyed, hraw]
      rfl
  have hzip : (members.zip items).Pairwise fun a b => bytesLe a.1 b.1 := by
    rw [← List.pairwise_map (f := Prod.fst) (R := bytesLe), List.map_fst_zip hkeyed.2.ge]
    exact hsort
  rw [sortByCanonical, hkeyed.1, ok_bind, List.Pairwise.insertionSort_eq hzip,
    List.map_snd_zip hkeyed.2.le]
  rfl

theorem encodeCertificate_decodeCertificate {raw c}
    (h : decodeCertificate raw = .ok c) : encodeCertificate c = .ok raw := by
  simp only [decodeCertificate, bind_eq_ok, exists_unit] at h
  obtain ⟨fields, hdec, hpreds, -, hread⟩ := h
  obtain ⟨hcanon, henc⟩ := canonical_of_decode hdec
  have hobject : c.toObject = .obj fields :=
    CommitCertificate.toObject_of_fromObject hcanon (noncanonical_eq_ok.mp hread)
  obtain rfl := obj.inj hobject
  have hsort : sortByCanonical PredecessorRef.toObject c.bindings.predecessors
      = .ok c.bindings.predecessors := by
    simp [checkPredecessors, CertificateBindings.toObject, bind_eq_ok, -List.mapM_map] at hpreds
    obtain ⟨_, hmems, hpairwise, -⟩ := hpreds
    exact sortByCanonical_of_pairwise hmems hpairwise
  have henc' : canonical c.toObject = .ok raw := henc
  simp only [encodeCertificate, hsort, ok_bind, henc', hdec, hpreds, pure_eq_ok]

end Apcc
