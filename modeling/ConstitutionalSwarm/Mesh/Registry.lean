import ConstitutionalSwarm.Mesh.Evidence

namespace Mesh

open Raising List Assoc

variable [Platform]

def isPlain (c : Char) : Bool :=
  ('a' ≤ c && c ≤ 'z') || c = '-'

class Platform.Lawful : Prop where
  strip_casefold (value : String)
    : Platform.strip (Platform.casefold (Platform.strip value)) =
      Platform.casefold (Platform.strip value)
  casefold_casefold (value : String)
    : Platform.casefold (Platform.casefold value) = Platform.casefold value
  nfkc_plain (value : String) : value.toList.all isPlain → Platform.nfkc value = value
  strip_plain (value : String) : value.toList.all isPlain → Platform.strip value = value
  casefold_plain (value : String) : value.toList.all isPlain → Platform.casefold value = value
  isFormat_plain (c : Char) : isPlain c → Platform.isFormat c = false
  verify_sign (key : PrivateKey) (message : Bytes)
    : Apcc.Platform.ed25519Verify (Platform.publicKey key).raw (Platform.sign key message) message

theorem PublicKey.verifies_sign [Platform.Lawful] (key : PrivateKey) (message : Bytes)
    : (Platform.publicKey key).verifies (Hex.encode (Platform.sign key message)) message := by
  rw [PublicKey.verifies, Hex.decode_encode]
  exact Platform.Lawful.verify_sign key message

section Names

variable [Platform.Lawful]

theorem isIdentity_plain (hne : name ≠ "") (h : name.toList.all isPlain)
    : IsIdentity name := by
  have hvisible : (Platform.nfkc name).toList.filter (fun c => !Platform.isFormat c) =
      name.toList := by
    rw [Platform.Lawful.nfkc_plain name h, filter_eq_self]
    intro c hc
    rw [Platform.Lawful.isFormat_plain c (all_eq_true.mp h c hc), Bool.not_false]
  rw [IsIdentity, normalizeVoterId, hvisible, String.ofList_toList,
    Platform.Lawful.strip_plain name h, Platform.Lawful.casefold_plain name h, if_neg hne]

theorem normalizeRole_plain (h : role.toList.all isPlain)
    : normalizeRole role = role := by
  rw [normalizeRole, Platform.Lawful.strip_plain role h, Platform.Lawful.casefold_plain role h]

theorem IsIdentity.normalizeRole_eq (h : IsIdentity name)
    : normalizeRole name = name := by
  rw [IsIdentity, normalizeVoterId] at h
  split at h
  . simp at h
  . obtain h := Except.ok.inj h
    rw [normalizeRole, ← h, Platform.Lawful.strip_casefold, Platform.Lawful.casefold_casefold]

end Names

theorem IsIdentity.ne_empty (h : IsIdentity name) : name ≠ "" := by
  rw [IsIdentity, normalizeVoterId] at h
  split at h
  . simp at h
  . next hne =>
    rintro rfl
    exact hne (Except.ok.inj h)

structure Grant.Valid (grant : Grant) : Prop where
  identity : IsIdentity grant.identity
  keyId : grant.keyId = keyIdForPublicKey grant.key
  roles_ne : grant.roles ≠ ∅
  roles : ∀ role ∈ grant.roles, Platform.strip role ≠ "" ∧ role = normalizeRole role
  exclusive : "assigner" ∈ grant.roles → Disjoint grant.roles votingRoles

variable {grant : Grant}

theorem checkGrant_eq_ok
    : checkGrant taken grant = .ok u ↔
      grant.Valid ∧ (∀ other ∈ taken, other.identity ≠ grant.identity) ∧
        ∀ other ∈ taken, other.key ≠ grant.key := by
  simp only [checkGrant, bind_eq_ok, exists_unit, raiseIf_eq_ok, decide_eq_false_iff_not,
    not_not, not_or, not_and, not_exists, ne_eq, any_eq_false, decide_eq_true_eq]
  constructor
  . rintro ⟨_, hnormal, rfl, hkeyId, ⟨hne, hroles⟩, hexclusive, hfresh, hkey⟩
    refine ⟨⟨hnormal, hkeyId, hne, hroles, hexclusive⟩, hfresh, ?_⟩
    split at hkey
    . next h => simpa using h
    . simp [bind_eq_ok] at hkey
  . rintro ⟨hvalid, hfresh, hkey⟩
    refine ⟨_, hvalid.identity, rfl, hvalid.keyId, ⟨hvalid.roles_ne, hvalid.roles⟩,
      hvalid.exclusive, hfresh, ?_⟩
    rw [find?_eq_none.mpr (by simpa using hkey)]
    rfl

theorem takeGrant_eq_ok
    : takeGrant taken grant = .ok result ↔
      (grant.Valid ∧ (∀ other ∈ taken, other.identity ≠ grant.identity) ∧
        ∀ other ∈ taken, other.key ≠ grant.key) ∧ taken ++ [grant] = result := by
  simp only [takeGrant, bind_eq_ok, exists_unit, checkGrant_eq_ok, pure_inj]

structure Compatible (grants : List Grant) : Prop where
  valid : ∀ grant ∈ grants, grant.Valid
  identities : (grants.map Grant.identity).Nodup
  keys : (grants.map Grant.key).Nodup

theorem compatible_concat
    : Compatible (grants ++ [grant]) ↔ Compatible grants ∧ grant.Valid ∧
      (∀ other ∈ grants, other.identity ≠ grant.identity) ∧
        ∀ other ∈ grants, other.key ≠ grant.key := by
  have hnodup : ∀ {β : Type} (f : Grant → β), ((grants ++ [grant]).map f).Nodup ↔
      (grants.map f).Nodup ∧ ∀ other ∈ grants, f other ≠ f grant := by
    intro β f
    simp [nodup_append]
  constructor
  . rintro ⟨hvalid, hidents, hkeys⟩
    obtain ⟨hidents, hident⟩ := (hnodup _).mp hidents
    obtain ⟨hkeys, hkey⟩ := (hnodup _).mp hkeys
    exact ⟨⟨fun g hg => hvalid g (mem_append_left _ hg), hidents, hkeys⟩,
      hvalid grant (by simp), hident, hkey⟩
  . rintro ⟨h, hgrant, hident, hkey⟩
    refine ⟨?_, (hnodup _).mpr ⟨h.identities, hident⟩, (hnodup _).mpr ⟨h.keys, hkey⟩⟩
    intro g hg
    rcases mem_append.mp hg with hg | hg
    . exact h.valid g hg
    . rwa [mem_singleton.mp hg]

theorem validateRegistryGrants_eq_ok
    : validateRegistryGrants grants = .ok res ↔ Compatible grants ∧ res = grants := by
  -- the fold has taken the grants before the one that it checks
  induction grants using reverseRecOn generalizing res with
  | nil =>
    simp only [validateRegistryGrants, foldlM_nil, pure_inj]
    exact ⟨fun h => ⟨⟨by simp, by simp, by simp⟩, h.symm⟩, fun h => h.2.symm⟩
  | append_singleton grants grant ih =>
    rw [validateRegistryGrants, foldlM_append, bind_eq_ok]
    simp only [validateRegistryGrants] at ih
    simp only [ih, foldlM_cons, foldlM_nil, bind_eq_ok, pure_inj,
      takeGrant_eq_ok, compatible_concat]
    constructor
    . rintro ⟨_, ⟨h, rfl⟩, _, ⟨hgrant, rfl⟩, rfl⟩
      exact ⟨⟨h, hgrant⟩, rfl⟩
    . rintro ⟨⟨h, hgrant⟩, rfl⟩
      exact ⟨_, ⟨h, rfl⟩, _, ⟨hgrant, rfl⟩, rfl⟩

namespace Registry

structure Sound (r : Registry) : Prop where
  unique : Assoc.Unique r.identities
  grants : ∀ name grant, r.identities.lookup name = some grant →
    grant.identity = name ∧ grant.Valid
  keys : ∀ name name' grant grant', r.identities.lookup name = some grant →
    r.identities.lookup name' = some grant' → grant.key = grant'.key → name = name'
  uniqueKeys : Assoc.Unique r.keys
  owners : ∀ keyId name, r.keys.lookup keyId = some name ↔
    ∃ grant, r.identities.lookup name = some grant ∧ grant.keyId = keyId

theorem sound_empty : empty.Sound where
  unique := Assoc.Unique.nil
  grants := by simp [empty]
  keys := by simp [empty]
  uniqueKeys := Assoc.Unique.nil
  owners := by simp [empty]

variable {r : Registry}

variable {grant candidate : Grant} {voterId : String} {key : PublicKey} {roles : List String}
  {r' : Registry}

theorem Sound.keyId_inj (h : r.Sound) (hgrant : r.identities.lookup name = some grant)
    (hgrant' : r.identities.lookup name' = some grant') (heq : grant.keyId = grant'.keyId)
    : name = name' := by
  have hname := (h.owners _ _).mpr ⟨grant, hgrant, heq⟩
  have hname' := (h.owners _ _).mpr ⟨grant', hgrant', rfl⟩
  exact Option.some.inj (hname.symm.trans hname')

theorem Sound.mem_grants (h : r.Sound)
    : grant ∈ r.grants ↔ r.identities.lookup grant.identity = some grant := by
  rw [Registry.grants, mem_map]
  constructor
  . rintro ⟨⟨name, _⟩, hmem, rfl⟩
    have hlook := h.unique.lookup_eq_some.mpr hmem
    rwa [(h.grants _ _ hlook).1]
  . intro hlook
    exact ⟨_, mem_of_lookup hlook, rfl⟩

theorem Sound.compatible (h : r.Sound) : Compatible r.grants where
  valid grant hgrant := (h.grants _ _ (h.mem_grants.mp hgrant)).2
  identities := by
    rw [Registry.grants, map_map]
    refine h.unique.nodup_map.mpr ?_
    intro name name' grant grant' hgrant hgrant' heq
    rwa [(h.grants _ _ hgrant).1, (h.grants _ _ hgrant').1] at heq
  keys := by
    rw [Registry.grants, map_map]
    exact h.unique.nodup_map.mpr h.keys

omit [Platform] in
theorem sameDict_eq_true {α β : Type} [DecidableEq α] [DecidableEq β] {a b : List (α × β)}
    (ha : Assoc.Unique a) (hb : Assoc.Unique b)
    (h : ∀ k v, a.lookup k = some v ↔ b.lookup k = some v) : sameDict a b := by
  simp only [sameDict, Bool.and_eq_true, all_eq_true, decide_eq_true_eq]
  refine ⟨?_, ?_⟩
  . intro e he
    exact (h _ _).mp (ha.lookup_eq_some.mpr he)
  . intro e he
    exact (h _ _).mpr (hb.lookup_eq_some.mpr he)

theorem Sound.validateTrustRoot (h : r.Sound) : r.validateTrustRoot = .ok () := by
  have hvalidated := validateRegistryGrants_eq_ok.mpr ⟨h.compatible, rfl⟩
  have hmap : ∀ {β : Type} (f : Grant → β),
      (r.grants.map fun grant => (f grant, grant)).map Prod.fst = r.grants.map f := by
    intro β f
    simp [Function.comp_def]
  have hidents : Assoc.Unique (r.grants.map fun grant => (grant.identity, grant)) := by
    rw [Assoc.Unique, hmap]
    exact h.compatible.identities
  have hkeys : Assoc.Unique (r.grants.map fun grant => (grant.keyId, grant.identity)) := by
    rw [Assoc.Unique, map_map, Registry.grants, map_map]
    exact h.unique.nodup_map.mpr fun _ _ _ _ => h.keyId_inj
  rw [Registry.validateTrustRoot, hvalidated, ok_bind, bind_eq_ok]
  refine ⟨(), ?_, ?_⟩
  . rw [ensure_eq_ok]
    refine sameDict_eq_true h.unique hidents ?_
    intro name grant
    rw [hidents.lookup_eq_some, mem_map]
    constructor
    . intro hgrant
      have hname := (h.grants _ _ hgrant).1
      exact ⟨grant, h.mem_grants.mpr (hname ▸ hgrant), by rw [hname]⟩
    . rintro ⟨grant, hgrant, heq⟩
      cases heq
      exact h.mem_grants.mp hgrant
  . rw [ensure_eq_ok]
    refine sameDict_eq_true h.uniqueKeys hkeys ?_
    intro keyId name
    rw [hkeys.lookup_eq_some, mem_map, h.owners]
    constructor
    . rintro ⟨grant, hgrant, rfl⟩
      have hname := (h.grants _ _ hgrant).1
      exact ⟨grant, h.mem_grants.mpr (hname ▸ hgrant), by rw [hname]⟩
    . rintro ⟨grant, hgrant, heq⟩
      cases heq
      exact ⟨grant, h.mem_grants.mp hgrant, rfl⟩

theorem Sound.candidate_grants (h : r.Sound) (candidate : Grant)
    : (if (r.identities.lookup candidate.identity).isSome then
        r.grants.map fun grant => if grant.identity = candidate.identity then candidate else grant
      else r.grants.map (fun grant =>
        if grant.identity = candidate.identity then candidate else grant) ++ [candidate]) =
      (Assoc.set candidate.identity candidate r.identities).map Prod.snd := by
  have hname : ∀ e ∈ r.identities, e.2.identity = e.1 := fun e he =>
    (h.grants _ _ (h.unique.lookup_eq_some.mpr he)).1
  have huniq := h.unique
  rw [Registry.grants]
  generalize r.identities = l at hname huniq
  induction l with
  | nil => simp [Assoc.set]
  | cons e l ih =>
    obtain ⟨hhead, htail⟩ := Assoc.Unique.cons.mp huniq
    obtain ⟨he, hl⟩ := forall_mem_cons.mp hname
    simp only [map_cons, Assoc.lookup_cons, Assoc.set, he]
    by_cases heq : e.1 = candidate.identity
    . -- the candidate replaces this entry, and no later one has its identity
      have hrest : (l.map Prod.snd).map (fun grant =>
          if grant.identity = candidate.identity then candidate else grant) = l.map Prod.snd := by
        rw [map_map, map_inj_left]
        intro e' he'
        rw [Function.comp, hl e' he', if_neg (heq ▸ hhead e' he')]
      simp [heq, hrest]
    . have ih := ih hl htail
      rw [if_neg (Ne.symm heq), if_neg heq, if_neg heq, map_cons, ← ih]
      split <;> rfl

structure Admissible (r : Registry) (candidate : Grant) : Prop where
  valid : candidate.Valid
  key : ∀ name grant, r.identities.lookup name = some grant → name ≠ candidate.identity →
    grant.key ≠ candidate.key
  owner : ∀ name, r.keys.lookup candidate.keyId = some name → name = candidate.identity

omit [Platform] in
theorem lookup_set_cases
    (h : (set candidate.identity candidate r.identities).lookup name = some grant)
    : name = candidate.identity ∧ grant = candidate ∨
      name ≠ candidate.identity ∧ r.identities.lookup name = some grant := by
  rw [lookup_set] at h
  split at h
  . next hname => exact .inl ⟨hname, (Option.some.inj h).symm⟩
  . next hname => exact .inr ⟨hname, h⟩

theorem Sound.compatible_set (h : r.Sound) (hvalid : candidate.Valid)
    (hkey : ∀ name grant, r.identities.lookup name = some grant → name ≠ candidate.identity →
      grant.key ≠ candidate.key)
    : Compatible ((set candidate.identity candidate r.identities).map Prod.snd) where
  valid := by
    intro grant hgrant
    obtain ⟨⟨name, grant⟩, hmem, rfl⟩ := mem_map.mp hgrant
    have hlook := (h.unique.set _ _).lookup_eq_some.mpr hmem
    rcases lookup_set_cases hlook with ⟨-, rfl⟩ | ⟨-, hold⟩
    . exact hvalid
    . exact (h.grants _ _ hold).2
  identities := by
    have hident : ∀ name grant,
        (set candidate.identity candidate r.identities).lookup name = some grant →
        grant.identity = name := by
      intro name grant hgrant
      rcases lookup_set_cases hgrant with ⟨rfl, rfl⟩ | ⟨-, hold⟩
      . rfl
      . exact (h.grants _ _ hold).1
    rw [map_map]
    refine (h.unique.set _ _).nodup_map.mpr ?_
    intro name name' grant grant' hgrant hgrant' heq
    rwa [hident _ _ hgrant, hident _ _ hgrant'] at heq
  keys := by
    rw [map_map]
    refine (h.unique.set _ _).nodup_map.mpr ?_
    intro name name' grant grant' hgrant hgrant' heq
    rcases lookup_set_cases hgrant with ⟨hname, hself⟩ | ⟨hne, hold⟩ <;>
      rcases lookup_set_cases hgrant' with ⟨hname', hself'⟩ | ⟨hne', hold'⟩
    . exact hname.trans hname'.symm
    . exact absurd (hself ▸ heq.symm) (hkey _ _ hold' hne')
    . exact absurd (hself' ▸ heq) (hkey _ _ hold hne)
    . exact h.keys _ _ _ _ hold hold' heq

theorem Sound.validateCandidate_eq_ok (h : r.Sound)
    : r.validateCandidate candidate = .ok u ↔
      candidate.Valid ∧ ∀ name grant, r.identities.lookup name = some grant →
        name ≠ candidate.identity → grant.key ≠ candidate.key := by
  simp only [validateCandidate, h.candidate_grants, bind_eq_ok, validateRegistryGrants_eq_ok,
    pure_eq_ok, and_true]
  constructor
  . rintro ⟨_, hcompat, -⟩
    have hself := lookup_set candidate.identity candidate.identity candidate r.identities
    rw [if_pos rfl] at hself
    refine ⟨hcompat.valid _ (mem_map_of_mem (mem_of_lookup hself)), ?_⟩
    intro name grant hgrant hne heq
    have hother := lookup_set candidate.identity name candidate r.identities
    rw [if_neg hne, hgrant] at hother
    have hkeys := hcompat.keys
    rw [map_map] at hkeys
    exact hne ((h.unique.set _ _).nodup_map.mp hkeys _ _ _ _ hother hself heq)
  . rintro ⟨hvalid, hkey⟩
    exact ⟨_, h.compatible_set hvalid hkey, rfl⟩

def rotate (r : Registry) (candidate : Grant) : Registry :=
  { r with
    keys := match r.identities.lookup candidate.identity with
      | some old => if old.keyId ≠ candidate.keyId then Assoc.erase old.keyId r.keys else r.keys
      | none => r.keys }.install candidate

omit [Platform] in
theorem lookup_rotate (candidate : Grant) (name : String)
    : (r.rotate candidate).identities.lookup name =
      if name = candidate.identity then some candidate else r.identities.lookup name :=
  lookup_set _ _ _ _

omit [Platform] in
theorem lookup_rotate_keys (candidate : Grant) (keyId : String)
    : (r.rotate candidate).keys.lookup keyId =
      if keyId = candidate.keyId then some candidate.identity
      else if (r.identities.lookup candidate.identity).any (·.keyId = keyId) then none
      else r.keys.lookup keyId := by
  rw [rotate, install, lookup_set]
  split
  . rfl
  . next hne =>
    cases hold : r.identities.lookup candidate.identity with
    | none => simp
    | some old =>
      simp only [Option.any_some, decide_eq_true_eq, ne_eq, ite_not]
      split
      . next heq =>
        rw [if_neg]
        rintro rfl
        exact hne heq
      . rw [lookup_erase]
        split
        . next heq => rw [if_pos heq.symm]
        . next heq => rw [if_neg (Ne.symm heq)]

theorem Sound.rotate (h : r.Sound) (ha : r.Admissible candidate)
    : (r.rotate candidate).Sound where
  unique := h.unique.set _ _
  grants := by
    intro name grant hgrant
    rcases lookup_set_cases hgrant with ⟨rfl, rfl⟩ | ⟨-, hold⟩
    . exact ⟨rfl, ha.valid⟩
    . exact h.grants _ _ hold
  keys := by
    have hcompat := (h.compatible_set ha.valid ha.key).keys
    rw [map_map] at hcompat
    exact (h.unique.set _ _).nodup_map.mp hcompat
  uniqueKeys := by
    refine Assoc.Unique.set ?_ _ _
    split
    . split
      . exact h.uniqueKeys.erase _
      . exact h.uniqueKeys
    . exact h.uniqueKeys
  owners := by
    intro keyId name
    rw [lookup_rotate_keys]
    simp only [lookup_rotate]
    by_cases hname : name = candidate.identity
    . simp only [hname, if_true, Option.some.injEq, exists_eq_left']
      split
      . next heq => simp [heq]
      . next hne =>
        refine iff_of_false ?_ (Ne.symm hne)
        split
        . simp
        . next hold =>
          intro hlook
          obtain ⟨old, hgrant, hkeyId⟩ := (h.owners _ _).mp hlook
          simp [hgrant, hkeyId] at hold
    . simp only [hname, if_false]
      split
      . next heq =>
        -- the candidate's key has no other owner
        constructor
        . intro hself
          exact absurd (Option.some.inj hself).symm hname
        . rintro ⟨grant, hgrant, hkeyId⟩
          exact absurd (ha.owner _ ((h.owners _ _).mpr ⟨grant, hgrant, hkeyId.trans heq⟩)) hname
      . split
        . next hold =>
          obtain ⟨old, hgrant, hkeyId⟩ := (Option.any_eq_true _ _).mp hold
          refine iff_of_false nofun ?_
          rintro ⟨grant, hgrant', hkeyId'⟩
          have hsame := hkeyId'.trans (of_decide_eq_true hkeyId).symm
          exact hname (h.keyId_inj hgrant' hgrant hsame)
        . exact h.owners _ _

omit [Platform] in
theorem requireOwner_eq_ok
    : r.requireOwner candidate = .ok u ↔
      ∀ name, r.keys.lookup candidate.keyId = some name → name = candidate.identity := by
  rw [requireOwner, raiseIf_eq_ok]
  cases r.keys.lookup candidate.keyId <;> simp

def grantOf (identity : String) (key : PublicKey) (roles : List String) : Grant :=
  ⟨identity, keyIdForPublicKey key, key, (roles.map normalizeRole).toFinset⟩

theorem candidateGrant_eq_ok
    : candidateGrant voterId key roles = .ok candidate ↔
      ((∀ role ∈ roles, Platform.strip role ≠ "") ∧ roles ≠ []) ∧
        ∃ ident, normalizeVoterId voterId = .ok ident ∧
          grantOf ident key roles = candidate := by
  simp only [candidateGrant, bind_eq_ok, exists_unit, raiseIf_eq_ok, any_eq_false,
    decide_eq_true_eq, decide_eq_false_iff_not, pure_inj, grantOf, ne_eq]
  constructor
  . rintro ⟨hroles, ident, hident, hne, hcand⟩
    exact ⟨⟨hroles, hne⟩, ident, hident, hcand⟩
  . rintro ⟨⟨hroles, hne⟩, ident, hident, hcand⟩
    exact ⟨hroles, ident, hident, hne, hcand⟩

theorem Sound.replace_eq_ok (h : r.Sound)
    : r.replace voterId key roles = .ok r' ↔
      ∃ candidate, candidateGrant voterId key roles = .ok candidate ∧ r.Admissible candidate ∧
        r.rotate candidate = r' := by
  simp only [replace, bind_eq_ok, exists_unit, requireOwner_eq_ok, h.validateCandidate_eq_ok,
    pure_inj]
  constructor
  . rintro ⟨candidate, hcand, howner, ⟨hvalid, hkey⟩, hrotate⟩
    exact ⟨candidate, hcand, ⟨hvalid, hkey, howner⟩, hrotate⟩
  . rintro ⟨candidate, hcand, ⟨hvalid, hkey, howner⟩, hrotate⟩
    exact ⟨candidate, hcand, howner, ⟨hvalid, hkey⟩, hrotate⟩

theorem Sound.register_of_fresh (h : r.Sound)
    (hcand : candidateGrant voterId key roles = .ok candidate)
    (hfresh : r.identities.lookup candidate.identity = none) (ha : r.Admissible candidate)
    : r.register voterId key roles = .ok (r.rotate candidate) := by
  simp only [register, bind_eq_ok, exists_unit, requireOwner_eq_ok, h.validateCandidate_eq_ok,
    raiseIf_eq_ok, pure_inj]
  refine ⟨candidate, hcand, by simp [hfresh], ha.owner, ⟨ha.valid, ha.key⟩, ?_⟩
  simp [Registry.rotate, hfresh]

theorem Sound.replace (h : r.Sound) (hok : r.replace voterId key roles = .ok r') : r'.Sound := by
  obtain ⟨_, -, hadmissible, rfl⟩ := h.replace_eq_ok.mp hok
  exact h.rotate hadmissible

theorem Sound.unregister (h : r.Sound) (hok : r.unregister voterId = .ok r')
    : r'.Sound ∧ ∃ ident, normalizeVoterId voterId = .ok ident ∧ ∀ name,
      r'.identities.lookup name =
        if name = ident then none else r.identities.lookup name := by
  rw [Registry.unregister, bind_eq_ok] at hok
  obtain ⟨ident, hident, hok⟩ := hok
  split at hok
  . next hnone =>
    cases hok
    refine ⟨h, ident, hident, fun name => ?_⟩
    split
    . next hname => rw [hname, hnone]
    . rfl
  . next grant hgrant =>
    cases hok
    have hlook := lookup_erase ident (l := r.identities)
    refine ⟨?_, ident, hident, hlook⟩
    have hother : ∀ {name other}, (erase ident r.identities).lookup name = some other →
        name ≠ ident ∧ r.identities.lookup name = some other := by
      intro name other hother
      rw [hlook] at hother
      split at hother
      . simp at hother
      . next hne => exact ⟨hne, hother⟩
    exact {
      unique := h.unique.erase _
      grants := fun name other hgrant => h.grants _ _ (hother hgrant).2
      keys := fun name name' other other' h₁ h₂ => h.keys _ _ _ _ (hother h₁).2 (hother h₂).2
      uniqueKeys := h.uniqueKeys.erase _
      owners := by
        intro keyId name
        rw [lookup_erase, hlook]
        by_cases hname : name = ident
        . rw [if_pos hname]
          simp only [reduceCtorEq, false_and, exists_false, iff_false]
          split
          . simp
          . next hne =>
            intro howner
            obtain ⟨other, hold, rfl⟩ := (h.owners _ _).mp howner
            rw [hname, hgrant, Option.some.injEq] at hold
            exact hne (by rw [hold])
        . rw [if_neg hname]
          split
          . next heq =>
            refine iff_of_false nofun ?_
            rintro ⟨other, hold, hkeyId⟩
            exact hname (h.keyId_inj hold hgrant (hkeyId.trans heq))
          . exact h.owners _ _ }

end Registry

end Mesh
