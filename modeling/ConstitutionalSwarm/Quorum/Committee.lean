import ConstitutionalSwarm.Data.Transition
import ConstitutionalSwarm.Quorum.Certificate

namespace Quorum

open Raising List Smallest Option

namespace ValidatorSet

variable {set : ValidatorSet} {v : ValidatorIdentity} {agentId : String}

theorem get_eq_some : set.get agentId = some v ↔ v ∈ set.validators ∧ v.agentId = agentId := by
  constructor
  . intro h
    exact ⟨mem_of_find?_eq_some h, by simpa using find?_some h⟩
  . rintro ⟨hv, rfl⟩
    cases hget : set.get v.agentId with
    | none => exact absurd (mem_map_of_mem hv) (notMem_of_get_eq_none hget)
    | some w =>
      have hw : w ∈ set.validators := mem_of_find?_eq_some hget
      have hid : w.agentId = v.agentId := by simpa using find?_some hget
      rw [inj_on_of_nodup_map set.nodup hw hv hid]

theorem snapshot_perm (set : ValidatorSet) : set.snapshot.Perm set.validators :=
  sortBy_perm _

variable {validators : List ValidatorIdentity}

theorem add_new {policy nodup} (h : v.agentId ∉ validators.map (·.agentId))
    (nodup' : ((validators ++ [v]).map (·.agentId)).Nodup) (replace rekey : Bool)
    : add ⟨policy, validators, [], nodup⟩ v replace rekey =
      .ok ⟨policy, validators ++ [v], [], nodup'⟩ := by
  unfold add
  split
  . rfl
  . next ex hget =>
    obtain ⟨hmem, hid⟩ := get_eq_some.mp hget
    exact absurd (hid ▸ mem_map_of_mem hmem) h

theorem ofValidators_eq_ok (policy : FaultDomainPolicy) (nodup : (validators.map (·.agentId)).Nodup)
    : ofValidators validators policy = .ok ⟨policy, validators, [], nodup⟩ := by
  suffices h : ∀ (rest front : List ValidatorIdentity) (hfront : (front.map (·.agentId)).Nodup)
      (hall : ((front ++ rest).map (·.agentId)).Nodup),
      rest.foldlM (fun (set : ValidatorSet) v => set.add v false false)
        ⟨policy, front, [], hfront⟩ = .ok ⟨policy, front ++ rest, [], hall⟩ by
    exact h validators [] nodup_nil nodup
  intro rest
  induction rest with
  | nil =>
    intro front hfront hall
    simp [pure_eq_ok]
  | cons v rest ih =>
    intro front hfront hall
    have hall' : (((front ++ [v]) ++ rest).map (·.agentId)).Nodup := by simpa using hall
    have hpush : ((front ++ [v]).map (·.agentId)).Nodup :=
      hall'.sublist ((sublist_append_left _ _).map _)
    have hnew := (Assoc.nodup_map_concat.mp hpush).1
    rw [foldlM_cons, add_new hnew hpush, ok_bind, ih (front ++ [v]) hpush hall']
    simp

inductive Action where
  | add (v : ValidatorIdentity) (replace rekey : Bool)
  | remove (agentId : String)

def step (set : ValidatorSet) : Action → Py ValidatorSet
  | .add v replace rekey => set.add v replace rekey
  | .remove agentId => .ok (set.remove agentId)

def Built (policy : FaultDomainPolicy) (set : ValidatorSet) : Prop :=
  Transition.Run step (fun _ _ => True) (empty policy) set

theorem policy_add {replace} (h : set.add v replace rekey = .ok set')
    : set'.policy = set.policy := by
  unfold add at h
  split at h
  . simp only [bind_eq_ok, exists_unit, pure_inj] at h
    rw [← h.2]
    rfl
  . simp only [bind_eq_ok, exists_unit, pure_inj] at h
    rw [← h.2.2]
    rfl

theorem Built.policy_eq {policy} (h : Built policy set)
    : set.policy = policy := by
  apply Transition.Run.invariant (p := fun set => set.policy = policy) _ h rfl
  intro s a s' _ hstep hs
  cases a with
  | add v replace rekey => rw [policy_add hstep, hs]
  | remove agentId =>
    rw [step, Except.ok.injEq] at hstep
    rw [← hstep]
    exact hs

theorem built_of_nodup (policy : FaultDomainPolicy) (nodup : (validators.map (·.agentId)).Nodup)
    : Built policy ⟨policy, validators, [], nodup⟩ := by
  induction validators using reverseRecOn with
  | nil => exact Transition.Run.refl _
  | append_singleton validators v ih =>
    have hfront : (validators.map (·.agentId)).Nodup :=
      nodup.sublist ((sublist_append_left _ _).map _)
    have hnew := (Assoc.nodup_map_concat.mp nodup).1
    exact Transition.Run.tail (a := .add v false false) (ih hfront) trivial
      (add_new hnew nodup false false)

/-- The key that an id is registered with, or was when it was removed. -/
def boundKey (set : ValidatorSet) (agentId : String) : Option Bytes :=
  match set.get agentId with
  | some v => v.publicKeyBytes
  | none => set.retiredKeys.lookup agentId

theorem boundKey_congr {set' : ValidatorSet}
    (hmem : ∀ w, w.agentId = agentId → (w ∈ set'.validators ↔ w ∈ set.validators))
    (hretired : set'.retiredKeys.lookup agentId = set.retiredKeys.lookup agentId)
    : set'.boundKey agentId = set.boundKey agentId := by
  have hget : set'.get agentId = set.get agentId := by
    ext w
    rw [get_eq_some, get_eq_some]
    exact and_congr_left (hmem w)
  rw [boundKey, boundKey, hget, hretired]

theorem boundKey_add {replace} (h : set.add v replace rekey = .ok set') (agentId : String)
    : set'.boundKey agentId =
      if agentId = v.agentId then v.publicKeyBytes else set.boundKey agentId := by
  have hadded : v ∈ set'.validators ∧ set'.retiredKeys = Assoc.erase v.agentId set.retiredKeys ∧
      ∀ w, w.agentId ≠ v.agentId → (w ∈ set'.validators ↔ w ∈ set.validators) := by
    unfold add at h
    split at h
    . simp only [bind_eq_ok, exists_unit, pure_inj] at h
      obtain ⟨-, rfl⟩ := h
      exact ⟨by simp [push], rfl, fun w hw => by simp [push, ne_of_apply_ne _ hw]⟩
    . next old hget =>
      simp only [bind_eq_ok, exists_unit, pure_inj] at h
      obtain ⟨-, -, rfl⟩ := h
      obtain ⟨hold, hid⟩ := get_eq_some.mp hget
      refine ⟨List.mem_map.mpr ⟨old, hold, if_pos hid⟩, rfl, fun w hw => ?_⟩
      grind [substitute]
  obtain ⟨hv, hretired, hother⟩ := hadded
  split
  . next heq => rw [boundKey, get_eq_some.mpr ⟨hv, heq.symm⟩]
  . next hne =>
    refine boundKey_congr (fun w hw => hother w (hw ▸ hne)) ?_
    rw [hretired, Assoc.lookup_erase, if_neg hne]

theorem key_of_add {replace} (h : set.add v replace false = .ok set')
    (hkey : set.boundKey v.agentId = some key) : v.publicKeyBytes = some key := by
  unfold add at h
  split at h
  . next hget =>
    simp only [bind_eq_ok, exists_unit, raiseIf_eq_ok] at h
    rw [boundKey, hget] at hkey
    simpa [hkey] using h.1
  . next hget =>
    simp only [bind_eq_ok, exists_unit, raiseIf_eq_ok] at h
    rw [boundKey, hget] at hkey
    simpa [hkey] using h.2.1

theorem boundKey_remove (removed : String) (hkey : set.boundKey agentId = some key)
    : (set.remove removed).boundKey agentId = some key := by
  by_cases heq : removed = agentId
  . subst heq
    have hget : (set.remove removed).get removed = none := by simp [get, remove]
    rw [boundKey] at hkey
    rw [boundKey, hget]
    cases hold : set.get removed <;> simp_all [remove, Assoc.lookup_set]
  . rw [← hkey]
    apply boundKey_congr
    . rintro w rfl
      simp [remove, Ne.symm heq]
    . simp only [remove]
      split <;> simp [Assoc.lookup_set, Ne.symm heq]

/-- A key stays bound to its id in every run that does not rekey it explicitly. -/
theorem key_continuous {set set' : ValidatorSet} {agentId : String} {key : Bytes}
    (hrun : Transition.Run step
      (fun _ a => ∀ v replace, a = .add v replace true → v.agentId ≠ agentId) set set')
    (hkey : set.boundKey agentId = some key) : set'.boundKey agentId = some key := by
  apply Transition.Run.invariant (p := fun set => set.boundKey agentId = some key) _ hrun hkey
  intro s a s' hrekey hstep hs
  cases a with
  | add v replace rekey =>
    rw [boundKey_add hstep]
    split
    . next heq =>
      subst heq
      cases rekey with
      | true => exact absurd rfl (hrekey v replace rfl)
      | false => exact key_of_add hstep hs
    . exact hs
  | remove removed => exact Except.ok.inj hstep ▸ boundKey_remove removed hs

end ValidatorSet

section Pick

variable [Sortition] {seed : String} {k : ℕ} {l l' : List ValidatorIdentity}

theorem pick_subset (seed : String) (k : ℕ) (l : List ValidatorIdentity) : pick seed k l ⊆ l := by
  intro v hv
  have hv := (sortBy_perm _).mem_iff.mp hv
  exact (sortBy_perm _).mem_iff.mp (mem_of_mem_take hv)

theorem nodup_smallest (h : (l.map (·.agentId)).Nodup)
    : ((smallest (·.score seed) k l).map (·.agentId)).Nodup := by
  have hsort : ((sortBy (·.score seed) l).map (·.agentId)).Nodup :=
    ((sortBy_perm _).map _).nodup_iff.mpr h
  exact hsort.sublist ((take_sublist _ _).map _)

theorem nodup_pick (h : (l.map (·.agentId)).Nodup)
    : ((pick seed k l).map (·.agentId)).Nodup :=
  ((sortBy_perm _).map _).nodup_iff.mpr (nodup_smallest h)

omit [Sortition] in
theorem sortBy_agentId_eq (hperm : l.Perm l') (h : (l.map (·.agentId)).Nodup)
    : sortBy (·.agentId) l = sortBy (·.agentId) l' := by
  have hsort : (sortBy (·.agentId) l).Perm (sortBy (·.agentId) l') :=
    (sortBy_perm l).trans (hperm.trans (sortBy_perm l').symm)
  apply hsort.eq_of_pairwise _ (pairwise_sortBy _ l) (pairwise_sortBy _ l')
  intro v w hv hw hvw hwv
  have hv := (sortBy_perm l).mem_iff.mp hv
  have hw := hperm.mem_iff.mpr ((sortBy_perm l').mem_iff.mp hw)
  exact inj_on_of_nodup_map h hv hw (le_antisymm hvw hwv)

theorem pick_part (hnodup : (l'.map (·.agentId)).Nodup) (hpart : l.Subperm l')
    (hsub : smallest (·.score seed) k l' ⊆ l) (hcut : ¬Smallest.Cuts (·.score seed) k l)
    : pick seed k l' = pick seed k l :=
  sortBy_agentId_eq (smallest_perm_part hnodup.of_map hpart hsub hcut) (nodup_smallest hnodup)

theorem pick_eq (hperm : l.Perm l') (h : (l.map (·.agentId)).Nodup)
    (hcut : ¬Smallest.Cuts (·.score seed) k l) : pick seed k l' = pick seed k l :=
  pick_part ((hperm.map _).nodup_iff.mp h) hperm.subperm
    (fun _ hv => hperm.mem_iff.mpr (mem_of_mem_smallest hv)) hcut

theorem pick_of_length_le (h : l.length ≤ k) (hnodup : (l.map (·.agentId)).Nodup)
    : pick seed k l = sortBy (·.agentId) l := by
  have hlen : (sortBy (·.score seed) l).length ≤ k :=
    (sortBy_perm l).length_eq.trans_le h
  rw [pick, smallest, take_of_length_le hlen]
  exact sortBy_agentId_eq (sortBy_perm l) (((sortBy_perm l).map _).nodup_iff.mpr hnodup)

theorem pick_min (seed : String) (k : ℕ) (l : List ValidatorIdentity)
    : pick seed (min k l.length) l = pick seed k l := by
  rw [pick, pick, smallest, smallest]
  congr 1
  rw [take_eq_take_iff, (sortBy_perm _).length_eq]
  omega

theorem length_pick (seed : String) (k : ℕ) (l : List ValidatorIdentity)
    : (pick seed k l).length = min k l.length := by
  rw [pick, (sortBy_perm _).length_eq, smallest, length_take, (sortBy_perm _).length_eq]

theorem map_pick_ne_reverse (h : (l.map (·.agentId)).Nodup)
    (hcut : Smallest.Cuts (·.score seed) k l)
    : (pick seed k l).map (·.agentId) ≠ (pick seed k l.reverse).map (·.agentId) := by
  obtain ⟨v, hv, hnot⟩ := exists_not_mem_reverse h.of_map hcut
  intro heq
  have hmem : v.agentId ∈ (pick seed k l.reverse).map (·.agentId) := by
    rw [← heq]
    exact mem_map_of_mem ((sortBy_perm _).mem_iff.mpr hv)
  obtain ⟨w, hw, hid⟩ := mem_map.mp hmem
  have hwl : w ∈ l := mem_reverse.mp (pick_subset _ _ _ hw)
  have hvl : v ∈ l := (sortBy_perm _).mem_iff.mp (mem_of_mem_take hv)
  rw [inj_on_of_nodup_map h hwl hvl hid] at hw
  exact hnot ((sortBy_perm _).mem_iff.mp hw)

end Pick

section Select

theorem nodup_candidates (set : ValidatorSet) (exclude : List String)
    : ((set.candidates exclude).map (·.agentId)).Nodup :=
  set.nodup.sublist (filter_sublist.map _)

variable [Sortition] {set other : ValidatorSet} {seed : String} {size : Int} {exclude : List String}
  {policy : FaultDomainPolicy}

theorem select_eq (set : ValidatorSet) (seed : String) (exclude : List String) (h : 0 < size)
    : select set seed size exclude =
      .ok (selectionOf set.policy seed (pick seed size.toNat (set.candidates exclude))) := by
  have hsize : decide (size ≤ 0) = false := by simpa using h
  simp only [select, hsize, raiseIf, Bool.false_eq_true, if_false, ok_bind, pure_eq_ok]
  split
  . next hnil =>
    rw [hnil]
    simp [pick, smallest, sortBy, selectionOf, rawWeight, domainWeights, Tally.groups]
  . rw [pick_min]

variable {committee : CommitteeSelection}

theorem select_eq_ok (h : 0 < size)
    : select set seed size exclude = .ok committee ↔
      selectionOf set.policy seed (pick seed size.toNat (set.candidates exclude)) = committee := by
  rw [select_eq _ _ _ h, Except.ok.injEq]

theorem size_pos_of_select (h : select set seed size exclude = .ok committee) : 0 < size := by
  simp only [select, bind_eq_ok, exists_unit, raiseIf_eq_ok, decide_eq_false_iff_not, not_le] at h
  exact h.1

theorem seed_of_select (h : select set seed size exclude = .ok committee)
    : committee.seed = seed := by
  rw [← (select_eq_ok (size_pos_of_select h)).mp h]
  rfl

def SameMembers (set other : ValidatorSet) : Prop :=
  ∀ v, v ∈ set.validators ↔ v ∈ other.validators

omit [Sortition] in
theorem SameMembers.perm (h : SameMembers set other) : set.validators.Perm other.validators :=
  (perm_ext_iff_of_nodup set.nodup.of_map other.nodup.of_map).mpr h

omit [Sortition] in
theorem SameMembers.candidates_perm (h : SameMembers set other) (exclude : List String)
    : (set.candidates exclude).Perm (other.candidates exclude) :=
  h.perm.filter _

omit [Sortition] in
theorem SameMembers.snapshot_eq (h : SameMembers set other) : set.snapshot = other.snapshot :=
  sortBy_agentId_eq h.perm set.nodup

def TiesAtEdge (set : ValidatorSet) (seed : String) (size : Int) (exclude : List String) : Prop :=
  Smallest.Cuts (·.score seed) size.toNat (set.candidates exclude)

theorem reconstructCommittee_congr (h : SameMembers set other) (hpol : set.policy = other.policy)
    (verifier : CertificateVerificationPolicy) (seed : String)
    : reconstructCommittee set verifier seed = reconstructCommittee other verifier seed := by
  rw [reconstructCommittee, reconstructCommittee, h.snapshot_eq, hpol,
    (h.candidates_perm _).length_eq]

theorem reconstructCommittee_eq_ok
    : reconstructCommittee set verifier seed = .ok committee ↔
      (0 < verifier.committeeSize.getD (set.candidates verifier.excludedVoterIds).length ∧
        (∀ size ∈ verifier.committeeSize,
          size ≤ (set.candidates verifier.excludedVoterIds).length)) ∧
      selectionOf set.policy seed (pick seed
        (verifier.committeeSize.getD (set.candidates verifier.excludedVoterIds).length).toNat
        (set.snapshot.filter (·.agentId ∉ verifier.excludedVoterIds))) = committee := by
  have hnodup : (set.snapshot.map (·.agentId)).Nodup :=
    (set.snapshot_perm.map _).nodup_iff.mpr set.nodup
  simp only [reconstructCommittee, ValidatorSet.ofValidators_eq_ok set.policy hnodup, ok_bind,
    bind_eq_ok, exists_unit, raiseIf_eq_ok, decide_eq_false_iff_not, not_le, not_and, not_lt,
    gt_iff_lt]
  cases hsize : verifier.committeeSize with
  | none =>
    simp only [getD_none, isSome_none, Bool.false_eq_true, false_implies, true_and,
      mem_def, reduceCtorEq, implies_true, and_true]
    exact and_congr_right select_eq_ok
  | some size =>
    simp only [getD_some, isSome_some, true_implies, mem_def,
      some.injEq, forall_eq', and_assoc]
    exact and_congr_right fun hpos => and_congr_right fun _ => select_eq_ok hpos

theorem cuts_min {l : List ValidatorIdentity} {k : ℕ}
    (h : Smallest.Cuts (·.score seed) (min k l.length) l) : Smallest.Cuts (·.score seed) k l := by
  obtain ⟨v, hv, hlt, hle⟩ := h
  have hcount : countLe (·.score seed) l v ≤ l.length := countP_le_length
  exact ⟨v, hv, by omega, by omega⟩

/-- The verifier rebuilds this committee from the snapshot, when it excludes these voters. -/
def Rebuilds (set : ValidatorSet) (committee : CommitteeSelection) (excluded : List String)
    : Prop :=
  committee.members.length ≤ (set.candidates excluded).length ∧
    (pick committee.seed committee.members.length
      (set.snapshot.filter (·.agentId ∉ excluded))).map (·.agentId) = committee.members

structure Pins (verifier : CertificateVerificationPolicy) (committee : CommitteeSelection)
    : Prop where
  size : verifier.committeeSize = some (committee.members.length : Int)
  seed : verifier.expectedCommitteeSeed = some committee.seed

omit [Sortition] in
theorem builderPolicy_eq_ok {fraction : ℚ} (h : builderPolicy committee fraction = .ok verifier)
    : (committee.members ≠ [] ∧ committee.seed ≠ "") ∧ Pins verifier committee ∧
      verifier.excludedVoterIds = [] := by
  unfold builderPolicy at h
  split_ifs at h with hsize hseed
  rw [Except.ok.injEq] at h
  rw [← h]
  exact ⟨⟨hsize, hseed⟩, ⟨rfl, rfl⟩, rfl⟩

omit [Sortition] in
theorem exists_builderPolicy {fraction : ℚ} (hfraction : 2 / 3 ≤ fraction ∧ fraction ≤ 1)
    (hsize : committee.members ≠ []) (hseed : committee.seed ≠ "")
    : ∃ verifier, builderPolicy committee fraction = .ok verifier := by
  have hpos : 0 < fraction := lt_of_lt_of_le (by norm_num) hfraction.1
  rw [builderPolicy, dif_neg hsize, dif_neg hseed, dif_pos ⟨hpos, hfraction.2⟩, dif_pos hfraction.1]
  exact ⟨_, rfl⟩

/-- What `build_certificate` checks before it looks at a vote. -/
def checkCommittee (set : ValidatorSet) (committee : CommitteeSelection) (fraction : ℚ)
    (verificationPolicy : Option CertificateVerificationPolicy)
    : Py (CertificateVerificationPolicy × CommitteeSelection) := do
  let policy ← (verificationPolicy.map .ok).getD (builderPolicy committee fraction)
  raiseIf (policy.committeeSize ≠ some (committee.members.length : Int))
    (invalidCertificate "builder policy committee size does not match committee")
  let rebuilt ← expectedSelection set policy committee.seed (some committee)
  return (policy, rebuilt)

theorem buildCertificate_cons [Apcc.Platform] [Numerics] (first : SignedVote)
    (rest : List SignedVote) (fraction : ℚ)
    (verificationPolicy : Option CertificateVerificationPolicy)
    : buildCertificate set (first :: rest) committee fraction verificationPolicy = do
      let checked ← checkCommittee set committee fraction verificationPolicy
      let qc := provisional first (first :: rest) committee.seed
      let weights ← weighVotes qc set checked.1 checked.2 false
      return { qc with achievedWeight := weights.1, thresholdWeight := weights.2 } := by
  have hvotes : (provisional first (first :: rest) committee.seed).votes ≠ [] := by
    apply ne_nil_of_length_pos
    simp [provisional, (sortBy_perm _).length_eq]
  simp only [buildCertificate, checkCommittee, verifyCertificateCore, hvotes, decide_false,
    LawfulMonad.bind_assoc, LawfulMonad.pure_bind]
  rfl

theorem exists_checkCommittee {fraction : ℚ} {p : Option CertificateVerificationPolicy}
    (hpolicy : (p.map .ok).getD (builderPolicy committee fraction) = .ok verifier)
    (hpins : Pins verifier committee)
    : (∃ checked, checkCommittee set committee fraction p = .ok checked) ↔
      Rebuilds set committee verifier.excludedVoterIds := by
  have hpos := verifier.size_pos _ hpins.size
  simp only [checkCommittee, hpolicy, ok_bind, expectedSelection, hpins.seed, bind_eq_ok,
    exists_unit, raiseIf_eq_ok, reconstructCommittee_eq_ok, hpins.size, any_some, getD_some,
    pure_eq_ok, Except.ok.injEq, decide_eq_false_iff_not, not_not, Int.toNat_natCast]
  constructor
  . rintro ⟨_, -, _, ⟨-, _, ⟨⟨-, hle⟩, rfl⟩, hmembers, rfl⟩, rfl⟩
    exact ⟨by simpa using hle, hmembers.symm⟩
  . rintro ⟨hle, hmembers⟩
    exact ⟨_, trivial, _, ⟨trivial, _, ⟨⟨hpos, by simpa using hle⟩, rfl⟩, hmembers.symm, rfl⟩, rfl⟩

theorem Rebuilds.members_eq {committee' : CommitteeSelection} {excluded : List String}
    (hmems : SameMembers set other) (h : Rebuilds set committee excluded)
    (h' : Rebuilds other committee' excluded) (hseed : committee.seed = committee'.seed)
    (hlen : committee.members.length = committee'.members.length)
    : committee.members = committee'.members := by
  rw [← h.2, ← h'.2, hseed, hlen, hmems.snapshot_eq]

/-- None of the lowest of the whole snapshot, as many as the committee has, is excluded. -/
def SparesLowest (set : ValidatorSet) (seed : String) (size : Int) (exclude : List String) : Prop :=
  ∀ v ∈ smallest (·.score seed) (min size.toNat (set.candidates exclude).length) set.snapshot,
    v.agentId ∉ exclude

theorem members_of_select (h : select set seed size exclude = .ok committee)
    : committee.members = (pick seed size.toNat (set.candidates exclude)).map (·.agentId) ∧
      committee.members.length = min size.toNat (set.candidates exclude).length := by
  rw [← (select_eq_ok (size_pos_of_select h)).mp h]
  exact ⟨rfl, by rw [selectionOf, length_map, length_pick]⟩

theorem rebuilds_of_not_tiesAtEdge (hselect : select set seed size exclude = .ok committee)
    (htie : ¬TiesAtEdge set seed size exclude) {excluded : List String} (hsub : excluded ⊆ exclude)
    (hspares : ∀ v ∈ smallest (·.score seed) (min size.toNat (set.candidates exclude).length)
      (set.snapshot.filter (·.agentId ∉ excluded)), v.agentId ∉ exclude)
    : Rebuilds set committee excluded := by
  obtain ⟨hmembers, hlen⟩ := members_of_select hselect
  have hmono : (set.candidates exclude).Sublist (set.candidates excluded) :=
    monotone_filter_right _ fun v hv => by
      simp only [decide_eq_true_eq] at hv ⊢
      exact mt (@hsub v.agentId) hv
  have hperm : (set.candidates excluded).Perm (set.snapshot.filter (·.agentId ∉ excluded)) :=
    set.snapshot_perm.symm.filter _
  refine ⟨by have := hmono.length_le; omega, ?_⟩
  rw [hlen, hmembers, seed_of_select hselect, ← pick_min seed size.toNat]
  congr 1
  apply pick_part _ (hmono.subperm.trans hperm.subperm) _ (mt cuts_min htie)
  . exact (hperm.map _).nodup_iff.mp (nodup_candidates set excluded)
  . intro v hv
    have hmem := hperm.mem_iff.mpr (mem_of_mem_smallest hv)
    exact mem_filter.mpr ⟨mem_of_mem_filter hmem, by simpa using hspares v hv⟩

theorem sparesLowest_of_rebuilds (hselect : select set seed size exclude = .ok committee)
    (h : Rebuilds set committee []) : SparesLowest set seed size exclude := by
  obtain ⟨hmembers, hlen⟩ := members_of_select hselect
  intro v hv
  have hmem : v.agentId ∈ committee.members := by
    rw [← h.2, hlen, seed_of_select hselect]
    apply List.mem_map_of_mem
    simpa [pick] using (sortBy_perm _).mem_iff.mpr hv
  rw [hmembers] at hmem
  obtain ⟨w, hw, hid⟩ := mem_map.mp hmem
  rw [← hid]
  simpa using (mem_filter.mp (pick_subset _ _ _ hw)).2

theorem select_eq_of_not_tiesAtEdge (hmems : SameMembers set other)
    (hpol : set.policy = other.policy) (htie : ¬TiesAtEdge set seed size exclude)
    : select other seed size exclude = select set seed size exclude := by
  by_cases hsize : 0 < size
  . rw [select_eq _ _ _ hsize, select_eq _ _ _ hsize, hpol,
      pick_eq (hmems.candidates_perm exclude) (nodup_candidates set exclude) htie]
  . have hle : decide (size ≤ 0) := by simpa using hsize
    rw [select, select, hle]
    rfl

theorem SameMembers.tiesAtEdge_iff (h : SameMembers set other)
    : TiesAtEdge set seed size exclude ↔ TiesAtEdge other seed size exclude :=
  cuts_perm (h.candidates_perm exclude)

theorem exists_select_ne (policy : FaultDomainPolicy) (htie : TiesAtEdge set seed size exclude)
    : ∃ other committee committee', ValidatorSet.Built policy other ∧ SameMembers set other ∧
      select set seed size exclude = .ok committee ∧
      select other seed size exclude = .ok committee' ∧
      committee.members ≠ committee'.members ∧
      committee.members.length = committee'.members.length ∧ committee.members ≠ [] := by
  have hsize : 0 < size := by
    obtain ⟨_, _, hlt, _⟩ := htie
    omega
  have hnodup : (set.validators.reverse.map (·.agentId)).Nodup := by
    rw [map_reverse, nodup_reverse]
    exact set.nodup
  have hcands : ValidatorSet.candidates ⟨policy, set.validators.reverse, [], hnodup⟩ exclude =
      (set.candidates exclude).reverse := filter_reverse ..
  refine ⟨⟨policy, set.validators.reverse, [], hnodup⟩, _, _,
    ValidatorSet.built_of_nodup policy hnodup, fun v => mem_reverse.symm,
    select_eq _ _ _ hsize, select_eq _ _ _ hsize, ?_, ?_, ?_⟩
  . rw [hcands]
    exact map_pick_ne_reverse (nodup_candidates set exclude) htie
  . rw [hcands]
    simp [selectionOf, length_pick]
  . obtain ⟨v, hv, _⟩ := htie
    have hpos := length_pos_of_mem hv
    apply ne_nil_of_length_pos
    simp only [selectionOf, length_map, length_pick]
    omega

/--
The committee depends only on seed, size, exclusions and membership exactly when no candidates of
one score stand on both sides of its edge. Its certificate builder takes it, with the policy it
makes itself, when moreover no excluded validator is among the lowest; with a policy that excludes
the same validators the first condition is enough.
-/
theorem select_depends_on_members_iff (h : ValidatorSet.Built policy set) (seed : String)
    (size : Int) (exclude : List String) {fraction : ℚ}
    (hfraction : 2 / 3 ≤ fraction ∧ fraction ≤ 1)
    : ((∀ other, ValidatorSet.Built policy other → SameMembers set other →
          select other seed size exclude = select set seed size exclude) ↔
        ¬TiesAtEdge set seed size exclude) ∧
      ((∀ other committee, ValidatorSet.Built policy other → SameMembers set other →
          select other seed size exclude = .ok committee →
          ∃ checked, checkCommittee other committee fraction none = .ok checked) ↔
        (0 < size → (seed ≠ "" ∧ set.candidates exclude ≠ []) ∧
          ¬TiesAtEdge set seed size exclude ∧ SparesLowest set seed size exclude)) ∧
      (seed ≠ "" →
        ((∀ other committee verifier, ValidatorSet.Built policy other → SameMembers set other →
            select other seed size exclude = .ok committee → Pins verifier committee →
            verifier.excludedVoterIds = exclude →
            ∃ checked, checkCommittee other committee fraction (some verifier) = .ok checked) ↔
          ¬TiesAtEdge set seed size exclude)) := by
  refine ⟨⟨?_, ?_⟩, ⟨?_, ?_⟩, fun hseed => ⟨?_, ?_⟩⟩
  . intro hsame htie
    obtain ⟨other, committee, committee', hother, hmems, hset, hselect, hne, -⟩ :=
      exists_select_ne policy htie
    have heq := hsame other hother hmems
    rw [hset, hselect, Except.ok.injEq] at heq
    exact hne (congrArg CommitteeSelection.members heq.symm)
  . intro htie other hother hmems
    exact select_eq_of_not_tiesAtEdge hmems (h.policy_eq.trans hother.policy_eq.symm) htie
  . intro hpasses hsize
    have hrebuilds : ∀ other committee, ValidatorSet.Built policy other → SameMembers set other →
        select other seed size exclude = .ok committee →
        (committee.members ≠ [] ∧ committee.seed ≠ "") ∧ Rebuilds other committee [] := by
      intro other committee hother hmems hselect
      obtain ⟨checked, hchecked⟩ := hpasses other committee hother hmems hselect
      obtain ⟨verifier, hpolicy, -⟩ := bind_eq_ok.mp hchecked
      obtain ⟨hne, hpins, hnone⟩ := builderPolicy_eq_ok hpolicy
      exact ⟨hne, hnone ▸ (exists_checkCommittee (p := none) hpolicy hpins).mp ⟨checked, hchecked⟩⟩
    have hselect := select_eq set seed exclude hsize
    obtain ⟨⟨hne, hseed⟩, hset⟩ := hrebuilds set _ h (fun _ => Iff.rfl) hselect
    refine ⟨⟨hseed, ?_⟩, ?_, sparesLowest_of_rebuilds hselect hset⟩
    . rintro hnil
      simp [selectionOf, hnil, pick, smallest, sortBy] at hne
    . intro htie
      obtain ⟨other, committee, committee', hother, hmems, hset, hselect, hne, hlen, -⟩ :=
        exists_select_ne policy htie
      apply hne
      apply Rebuilds.members_eq hmems (hrebuilds _ _ h (fun _ => Iff.rfl) hset).2
        (hrebuilds _ _ hother hmems hselect).2 _ hlen
      rw [seed_of_select hset, seed_of_select hselect]
  . intro hcond other committee hother hmems hselect
    have hsize := size_pos_of_select hselect
    obtain ⟨⟨hseed, hne⟩, htie, hspares⟩ := hcond hsize
    have hcands := (hmems.candidates_perm exclude).length_eq
    have hnil : committee.members ≠ [] := by
      apply ne_nil_of_length_pos
      have := length_pos_iff.mpr hne
      rw [(members_of_select hselect).2]
      omega
    obtain ⟨verifier, hpolicy⟩ := exists_builderPolicy hfraction hnil
      (seed_of_select hselect ▸ hseed)
    obtain ⟨-, hpins, hnone⟩ := builderPolicy_eq_ok hpolicy
    apply (exists_checkCommittee (p := none) hpolicy hpins).mpr
    rw [hnone]
    apply rebuilds_of_not_tiesAtEdge hselect (mt hmems.tiesAtEdge_iff.mpr htie) (nil_subset _)
    simpa [SparesLowest, ← hcands, ← hmems.snapshot_eq] using hspares
  . intro hpasses htie
    obtain ⟨other, committee, committee', hother, hmems, hset, hselect, hne, hlen, hnil⟩ :=
      exists_select_ne policy htie
    have hpos : 0 < (committee.members.length : Int) := by
      exact_mod_cast length_pos_iff.mpr hnil
    let verifier : CertificateVerificationPolicy :=
      { CertificateVerificationPolicy.standard with
        committeeSize := some (committee.members.length : Int)
        expectedCommitteeSeed := some seed
        excludedVoterIds := exclude
        size_pos := by simpa using hpos
        seed_of_size := by simpa using hseed }
    have hpins : Pins verifier committee := ⟨rfl, by rw [seed_of_select hset]⟩
    have hpins' : Pins verifier committee' := ⟨by rw [← hlen], by rw [seed_of_select hselect]⟩
    apply hne
    apply Rebuilds.members_eq hmems
      ((exists_checkCommittee rfl hpins).mp (hpasses _ _ _ h (fun _ => Iff.rfl) hset hpins rfl))
      ((exists_checkCommittee rfl hpins').mp (hpasses _ _ _ hother hmems hselect hpins' rfl)) _ hlen
    rw [seed_of_select hset, seed_of_select hselect]
  . intro htie other committee verifier hother hmems hselect hpins hexclude
    apply (exists_checkCommittee (p := some verifier) rfl hpins).mpr
    rw [hexclude]
    apply rebuilds_of_not_tiesAtEdge hselect (mt hmems.tiesAtEdge_iff.mpr htie) (Subset.refl _)
    intro v hv
    simpa using (mem_filter.mp (mem_of_mem_smallest hv)).2

end Select

end Quorum

namespace Quorum.Sample

theorem one_mem : 0 ≤ (1 : ℚ) ∧ (1 : ℚ) ≤ 1 := by
  norm_num

def validator (agentId : String) (h : agentId ≠ "" ∧ '\x00' ∉ agentId.toList) (stake : ℕ)
    (faultDomain : String) (byte : UInt8) : ValidatorIdentity where
  agentId := agentId
  stake := stake
  reputation := 1
  faultDomain := faultDomain
  publicKeyBytes := some (List.replicate 32 byte)
  agentId_ne := h.1
  nul_notMem := h.2
  stake_nonneg := Nat.cast_nonneg stake
  reputation_mem := one_mem
  length_key := by simp

def domainPolicy : FaultDomainPolicy where
  maxFraction := 1 / 2
  untaggedPolicy := .strict
  maxFraction_mem := by norm_num

def setOf (validators : List ValidatorIdentity) (nodup : (validators.map (·.agentId)).Nodup)
    : ValidatorSet :=
  ⟨domainPolicy, validators, [], nodup⟩

theorem setOf_built (validators : List ValidatorIdentity)
    (nodup : (validators.map (·.agentId)).Nodup)
    : ValidatorSet.Built domainPolicy (setOf validators nodup) :=
  ValidatorSet.built_of_nodup domainPolicy nodup

instance sortition : Sortition where
  draw _ _ weight := weight

theorem plain_a : "a" ≠ "" ∧ '\x00' ∉ "a".toList := by decide

theorem plain_b : "b" ≠ "" ∧ '\x00' ∉ "b".toList := by decide

def unstakedSet : ValidatorSet :=
  setOf [validator "a" plain_a 0 "east" 0, validator "b" plain_b 0 "west" 1] (by decide)

def reversedSet : ValidatorSet :=
  setOf [validator "b" plain_b 0 "west" 1, validator "a" plain_a 0 "east" 0] (by decide)

theorem select_differs_by_order
    : ∃ committee committee', ValidatorSet.Built domainPolicy unstakedSet ∧
      ValidatorSet.Built domainPolicy reversedSet ∧ SameMembers unstakedSet reversedSet ∧
      select unstakedSet "seed" 1 [] = .ok committee ∧
      select reversedSet "seed" 1 [] = .ok committee' ∧ committee.members ≠ committee'.members ∧
      (checkCommittee reversedSet committee' (2 / 3) none).map (·.2) = .error
        (invalidCertificate "provided committee does not match deterministic selection") := by
  refine ⟨_, _, setOf_built _ _, setOf_built _ _, ?_, select_eq _ _ _ (by decide),
    select_eq _ _ _ (by decide), by decide +kernel, by decide +kernel⟩
  intro v
  simp [unstakedSet, reversedSet, setOf, or_comm]

/-- Three validators in three fault domains. -/
def stakedSet : ValidatorSet :=
  setOf [validator "a" plain_a 1 "east" 0, validator "b" plain_b 2 "west" 1,
    validator "c" (by decide) 3 "north" 2] (by decide)

theorem select_depends_on_members_iff_staked
    : SparesLowest stakedSet "seed" 2 ["c"] ∧
      ∀ other committee, ValidatorSet.Built domainPolicy other → SameMembers stakedSet other →
        select other "seed" 2 ["c"] = .ok committee →
        ∃ checked, checkCommittee other committee (2 / 3) none = .ok checked := by
  have htie : ¬TiesAtEdge stakedSet "seed" 2 ["c"] := by
    unfold TiesAtEdge Smallest.Cuts
    decide +kernel
  have hspares : SparesLowest stakedSet "seed" 2 ["c"] := by
    unfold SparesLowest
    decide +kernel
  exact ⟨hspares, (select_depends_on_members_iff (setOf_built _ _) "seed" 2 ["c"]
    (by norm_num)).2.1.mpr fun _ => ⟨⟨by decide, by decide⟩, htie, hspares⟩⟩

theorem key_continuous_staked
    : ∃ set, (stakedSet.remove "a").step (.add (validator "a" plain_a 5 "east" 0) false false) =
        .ok set ∧ set.boundKey "a" = some (List.replicate 32 0) := by
  have hkey : stakedSet.boundKey "a" = some (List.replicate 32 0) := rfl
  have hremove : stakedSet.step (.remove "a") = .ok (stakedSet.remove "a") := rfl
  obtain ⟨set, hset⟩ : ∃ set, (stakedSet.remove "a").step
      (.add (validator "a" plain_a 5 "east" 0) false false) = .ok set := ⟨_, rfl⟩
  refine ⟨set, hset, ?_⟩
  apply ValidatorSet.key_continuous (.tail (.tail (.refl _) _ hremove) _ hset) hkey <;> simp

end Quorum.Sample
