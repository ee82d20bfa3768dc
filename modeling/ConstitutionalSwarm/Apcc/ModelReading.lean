import ConstitutionalSwarm.Apcc.ModelLemmas
import ConstitutionalSwarm.Data.Assoc

namespace Json

theorem eq_of_lookup {α : Type} {fs gs : List (String × α)} (hfs : SortedKeys fs)
    (hgs : SortedKeys gs) (hkeys : ∀ k ∈ fs.map Prod.fst, k ∈ gs.map Prod.fst)
    (hlook : ∀ e ∈ gs, fs.lookup e.1 = some e.2) : fs = gs := by
  have hnodup : ∀ {l : List (String × α)}, SortedKeys l → (l.map Prod.fst).Nodup := fun hl =>
    (sortedKeys_iff.mp hl).imp ne_of_lt
  have hsub : ∀ e ∈ gs, e ∈ fs := fun e he => Assoc.mem_of_lookup (hlook e he)
  have hperm : fs.Perm gs := by
    rw [List.perm_ext_iff_of_nodup (List.Nodup.of_map _ (hnodup hfs))
      (List.Nodup.of_map _ (hnodup hgs))]
    intro e
    refine ⟨fun he => ?_, hsub e⟩
    obtain ⟨e', he', hkey⟩ := List.mem_map.mp (hkeys e.1 (List.mem_map_of_mem he))
    rwa [← List.inj_on_of_nodup_map (hnodup hfs) (hsub e' he') he hkey]
  exact hperm.eq_of_pairwise (fun a b _ _ hab hba => absurd hba (lt_asymm hab)) hfs hgs

end Json

namespace Apcc

section Fields

variable {value : Fields} {key : String}

@[simp]
theorem item_eq_ok : item value key = .ok v ↔ value.lookup key = some v := by
  unfold item
  cases value.lookup key <;> simp

@[simp]
theorem string_eq_ok
    : string value key = .ok s ↔ value.lookup key = some (.str s) := by
  simp only [string, bind_eq_ok, item_eq_ok]
  constructor
  . rintro ⟨v, hv, h⟩
    cases v <;> simp_all
  . intro h
    exact ⟨_, h, rfl⟩

@[simp]
theorem array_eq_ok
    : array value key msg = .ok vs ↔ value.lookup key = some (.arr vs) := by
  simp only [array, bind_eq_ok, item_eq_ok]
  constructor
  . rintro ⟨v, hv, h⟩
    cases v <;> simp_all
  . intro h
    exact ⟨_, h, rfl⟩

@[simp]
theorem object_eq_ok : object v = .ok fields ↔ v = .obj fields := by
  cases v <;> simp [object]

@[simp]
theorem nested_eq_ok {α : Type} {fromObject : Fields → Py α} {a}
    : nested value key fromObject = .ok a ↔
      ∃ fields, value.lookup key = some (.obj fields) ∧ fromObject fields = .ok a := by
  simp only [nested, bind_eq_ok, item_eq_ok, object_eq_ok]
  constructor
  . rintro ⟨_, hv, fields, rfl, h⟩
    exact ⟨fields, hv, h⟩
  . rintro ⟨fields, hv, h⟩
    exact ⟨_, hv, fields, rfl, h⟩

theorem obj_eq_of_expectKeys {fields gs exp} (hflds : (Json.obj fields).Canonical)
    (hgs : (Json.obj gs).Canonical) (hkeys : expectKeys fields exp = .ok ())
    (h : (∀ k ∈ exp, k ∈ gs.map Prod.fst) ∧ ∀ e ∈ gs, fields.lookup e.1 = some e.2)
    : Json.obj gs = .obj fields := by
  rw [Json.Canonical] at hflds hgs
  rw [Json.eq_of_lookup hflds.1 hgs.1
    (fun k hk => h.1 k ((expectKeys_eq_ok.mp hkeys k).mp hk)) h.2]

theorem canonical_of_lookup (hflds : (Json.obj fields).Canonical)
    (h : fields.lookup key = some v) : v.Canonical := by
  rw [Json.Canonical, Json.canonicalFields_iff] at hflds
  exact hflds.2 _ (Assoc.mem_of_lookup h)

end Fields

section Records

variable {fields : Fields} (hflds : (Json.obj fields).Canonical)

include hflds

theorem Signature.toObject_of_fromObject (h : fromObject fields = .ok v)
    : v.toObject = .obj fields := by
  simp only [fromObject, bind_eq_ok, exists_unit, string_eq_ok] at h
  obtain ⟨hkeys, _, halgorithm, _, hkeyId, _, hsig, h⟩ := h
  split at h
  . cases h
    exact obj_eq_of_expectKeys hflds (canonical_toObject _) hkeys (by
      simp [keys, halgorithm, hkeyId, hsig])
  . simp at h

theorem CertificateHeader.toObject_of_fromObject (h : fromObject fields = .ok v)
    : v.toObject = .obj fields := by
  simp only [fromObject, bind_eq_ok, exists_unit, string_eq_ok] at h
  obtain ⟨hkeys, _, hprotocol, _, htype, _, hprofile, _, hdig, _, hsig, _, hstore, _,
    hkeyId, _, hseq, h⟩ := h
  split at h
  . cases h
    exact obj_eq_of_expectKeys hflds (canonical_toObject _) hkeys (by
      simp [keys, hprotocol, htype, hprofile, hdig, hsig, hstore, hkeyId, hseq])
  . simp at h

theorem CertificateSubject.toObject_of_fromObject (h : fromObject fields = .ok v)
    : v.toObject = .obj fields := by
  simp only [fromObject, bind_eq_ok, exists_unit, string_eq_ok, pure_inj] at h
  obtain ⟨hkeys, _, hwf, _, hnode, _, hatt, _, hagent, _, hauth, _, hinput, _,
    houtput, rfl⟩ := h
  exact obj_eq_of_expectKeys hflds (canonical_toObject _) hkeys (by
    simp [keys, hwf, hnode, hatt, hagent, hauth, hinput, houtput])

theorem CertificateContext.toObject_of_fromObject (h : fromObject fields = .ok v)
    : v.toObject = .obj fields := by
  simp only [fromObject, bind_eq_ok, exists_unit, string_eq_ok, pure_inj] at h
  obtain ⟨hkeys, _, hpol, _, hvers, _, hepoch, _, hroot, _, hauth, _, hagent, _,
    hwf, _, hworkflowEpoch, rfl⟩ := h
  exact obj_eq_of_expectKeys hflds (canonical_toObject _) hkeys (by
    simp [keys, hpol, hvers, hepoch, hroot, hauth, hagent, hwf, hworkflowEpoch])

theorem CertificateDecision.toObject_of_fromObject (h : fromObject fields = .ok v)
    : v.toObject = .obj fields := by
  simp only [fromObject, bind_eq_ok, exists_unit, string_eq_ok] at h
  obtain ⟨hkeys, _, hout, _, hreason, _, hcommitId, _, hnonce, _, hcommittedAt, h⟩ := h
  split at h
  . cases h
    exact obj_eq_of_expectKeys hflds (canonical_toObject _) hkeys (by
      simp [keys, hout, hreason, hcommitId, hnonce, hcommittedAt])
  . simp at h

theorem PredecessorRef.toObject_of_fromObject (h : fromObject fields = .ok v)
    : v.toObject = .obj fields := by
  simp only [fromObject, bind_eq_ok, exists_unit, string_eq_ok, pure_inj] at h
  obtain ⟨hkeys, _, hwf, _, hnode, _, hvers, _, hcommitId, _, hdig, _, houtput,
    rfl⟩ := h
  exact obj_eq_of_expectKeys hflds (canonical_toObject _) hkeys (by
    simp [keys, hwf, hnode, hvers, hcommitId, hdig, houtput])

theorem CertificateBindings.toObject_of_fromObject
    (h : fromObject fields = .ok v) : v.toObject = .obj fields := by
  simp only [fromObject, bind_eq_ok, exists_unit, string_eq_ok, array_eq_ok] at h
  obtain ⟨hkeys, items, hitems, _, hexp, _, hcomm, _, hroot, preds, hread, h⟩ := h
  split at h
  . cases h
    have hcanon := canonical_of_lookup hflds hitems
    rw [Json.Canonical, Json.canonicalElems_iff] at hcanon
    have hwritten : preds.map PredecessorRef.toObject = items := by
      refine Except.map_of_mapM (fun item hitem p hp => ?_) hread
      simp only [bind_eq_ok, object_eq_ok] at hp
      obtain ⟨_, rfl, hp⟩ := hp
      exact PredecessorRef.toObject_of_fromObject (hcanon _ hitem) hp
    exact obj_eq_of_expectKeys hflds (canonical_toObject _) hkeys (by
      simp [keys, hexp, hcomm, hroot, hwritten, hitems])
  . split at h <;> simp at h

theorem CertificateSignatures.toObject_of_fromObject {v}
    (h : fromObject fields = .ok v) : v.toObject = .obj fields := by
  simp only [fromObject, bind_eq_ok, exists_unit, nested_eq_ok, pure_inj] at h
  obtain ⟨hkeys, prod, ⟨_, hprod, hp⟩, pol, ⟨_, hpol, hq⟩, reg,
    ⟨_, hreg, hr⟩, rfl⟩ := h
  have hp := Signature.toObject_of_fromObject (canonical_of_lookup hflds hprod) hp
  have hq := Signature.toObject_of_fromObject (canonical_of_lookup hflds hpol) hq
  have hr := Signature.toObject_of_fromObject (canonical_of_lookup hflds hreg) hr
  exact obj_eq_of_expectKeys hflds (canonical_toObject _) hkeys (by
    simp [keys, hp, hq, hr, hprod, hpol, hreg])

theorem Statement.toObject_of_fromFields
    (h : fromFields fields error = .ok v) : v.toObject = .obj fields := by
  simp only [fromFields, bind_eq_ok, pure_inj] at h
  obtain ⟨pairs, hpairs, rfl⟩ := h
  have hwritten : pairs.map (fun e => (e.1, Json.str e.2)) = fields := by
    refine Except.map_of_mapM (fun e _ p hp => ?_) hpairs
    obtain ⟨_, value⟩ := e
    cases value <;> simp [stringEntry] at hp
    simp [← hp]
  have hsort : Json.SortedKeys pairs := by
    rw [Json.Canonical, ← hwritten, Json.SortedKeys, List.pairwise_map] at hflds
    exact hflds.1
  simp only [toObject, toFields, ofPairs, Json.dict_of_sortedKeys hsort, hwritten]

theorem CertificateEvidence.toObject_of_fromObject {v}
    (h : fromObject fields = .ok v) : v.toObject = .obj fields := by
  simp only [fromObject, bind_eq_ok, exists_unit, nested_eq_ok, string_eq_ok, pure_inj] at h
  obtain ⟨hkeys, _, ⟨prod, hprod, rfl⟩, -, _, ⟨pol, hpol, rfl⟩, -, _,
    ⟨reg, hreg, rfl⟩, -, _, hp, _, hq, _, hr, _, hproducerDigest, _, hpolicyDigest, _,
    hregistryDigest, h⟩ := h
  split at h
  . cases h
    have hp := Statement.toObject_of_fromFields (canonical_of_lookup hflds hprod) hp
    have hq := Statement.toObject_of_fromFields (canonical_of_lookup hflds hpol) hq
    have hr := Statement.toObject_of_fromFields (canonical_of_lookup hflds hreg) hr
    exact obj_eq_of_expectKeys hflds (canonical_toObject _) hkeys (by
      simp [keys, hp, hq, hr, hprod, hpol, hreg, hproducerDigest, hpolicyDigest, hregistryDigest])
  . simp at h

theorem CommitCertificate.toObject_of_fromObject {v}
    (h : fromObject fields = .ok v) : v.toObject = .obj fields := by
  simp only [fromObject, bind_eq_ok, exists_unit, nested_eq_ok, pure_inj] at h
  obtain ⟨hkeys, _, ⟨_, hheader, h₁⟩, _, ⟨_, hsubj, h₂⟩, _, ⟨_, hctx, h₃⟩, _,
    ⟨_, hevid, h₄⟩, _, ⟨_, hdecision, h₅⟩, _, ⟨_, hbind, h₆⟩, _, ⟨_, hsigs, h₇⟩,
    rfl⟩ := h
  have h₁ := CertificateHeader.toObject_of_fromObject (canonical_of_lookup hflds hheader) h₁
  have h₂ := CertificateSubject.toObject_of_fromObject (canonical_of_lookup hflds hsubj) h₂
  have h₃ := CertificateContext.toObject_of_fromObject (canonical_of_lookup hflds hctx) h₃
  have h₄ := CertificateEvidence.toObject_of_fromObject (canonical_of_lookup hflds hevid) h₄
  have h₅ := CertificateDecision.toObject_of_fromObject (canonical_of_lookup hflds hdecision) h₅
  have h₆ := CertificateBindings.toObject_of_fromObject (canonical_of_lookup hflds hbind) h₆
  have h₇ := CertificateSignatures.toObject_of_fromObject (canonical_of_lookup hflds hsigs) h₇
  exact obj_eq_of_expectKeys hflds (canonical_toObject _) hkeys (by
    simp [keys, h₁, h₂, h₃, h₄, h₅, h₆, h₇, hheader, hsubj, hctx, hevid, hdecision, hbind, hsigs])

end Records

end Apcc
