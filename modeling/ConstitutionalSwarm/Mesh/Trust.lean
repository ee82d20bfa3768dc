import ConstitutionalSwarm.Mesh.Core
import ConstitutionalSwarm.Mesh.Registry

namespace Mesh

open Raising List Assoc Hex

theorem encode_raw_inj {a b : PublicKey} : encode a.raw = encode b.raw ↔ a = b := by
  rw [encode_injective.eq_iff]
  constructor
  . intro h
    cases a
    cases b
    simp_all
  . rintro rfl
    rfl

variable [Platform]

def parseEntry (entry : String × TrustGrant) : Py (String × SignerTrustGrant) := do
  raiseIf (entry.1 = "")
    (.valueError "signer trust registry key IDs must be non-empty strings")
  let grant ← SignerTrustGrant.ofGrant entry.2
  return (entry.1, grant)

structure Parsed (entries : TrustedSigners) (grants : SignerGrants) : Prop where
  each : entries.mapM parseEntry = .ok grants
  identities : (grants.map (·.2.identityId)).Nodup
  publicKeys : (grants.map (·.2.publicKeyHex)).Nodup

def ParsedGrants.of (grants : SignerGrants) : ParsedGrants where
  grants := grants
  identities := grants.map fun grant => (grant.2.identityId, grant.1, grant.2.publicKeyHex)
  publicKeyOwners := grants.map fun grant => (grant.2.publicKeyHex, grant.2.identityId)

variable {entry : String × TrustGrant} {entries : TrustedSigners} {grants : SignerGrants}

theorem parseEntry_eq_ok
    : parseEntry entry = .ok grant ↔
      entry.1 ≠ "" ∧ SignerTrustGrant.ofGrant entry.2 = .ok grant.2 ∧ entry.1 = grant.1 := by
  simp only [parseEntry, bind_eq_ok, exists_unit, raiseIf_eq_ok, decide_eq_false_iff_not,
    pure_inj, ne_eq]
  constructor
  . rintro ⟨hne, _, hgrant, rfl⟩
    exact ⟨hne, hgrant, rfl⟩
  . rintro ⟨hne, hgrant, hkey⟩
    exact ⟨hne, grant.2, hgrant, by rw [hkey]⟩

theorem Parsed.keys (h : Parsed entries grants)
    : entries.map Prod.fst = grants.map Prod.fst := by
  have heach := h.each
  clear h
  induction entries generalizing grants with
  | nil =>
    cases heach
    rfl
  | cons entry entries ih =>
    simp only [mapM_cons, bind_eq_ok, pure_inj] at heach
    obtain ⟨grant, hgrant, grants, hgrants, rfl⟩ := heach
    rw [map_cons, map_cons, (parseEntry_eq_ok.mp hgrant).2.2, ih hgrants]

namespace ParsedGrants

variable {grants : SignerGrants} {key : String} {grant : SignerTrustGrant}

omit [Platform] in
theorem lookup_identities_eq_none
    : (of grants).identities.lookup name = none ↔ name ∉ grants.map (·.2.identityId) := by
  rw [lookup_eq_none, of, map_map]
  rfl

omit [Platform] in
theorem lookup_publicKeyOwners_eq_none
    : (of grants).publicKeyOwners.lookup hex = none ↔ hex ∉ grants.map (·.2.publicKeyHex) := by
  rw [lookup_eq_none, of, map_map]
  rfl

omit [Platform] in
theorem identity_fresh (hkey : key ∉ grants.map Prod.fst)
    (h : ((of grants).identities.lookup grant.identityId).any
      (· ≠ (key, grant.publicKeyHex)) = false)
    : grant.identityId ∉ grants.map (·.2.identityId) := by
  rw [← lookup_identities_eq_none]
  cases hlook : (of grants).identities.lookup grant.identityId with
  | none => rfl
  | some owner =>
    rw [hlook, Option.any_some, decide_eq_false_iff_not, not_not] at h
    obtain ⟨other, hother, heq⟩ := mem_map.mp (mem_of_lookup hlook)
    have howner : other.1 = key := congrArg Prod.fst ((Prod.mk.inj heq).2.trans h)
    exact absurd (mem_map.mpr ⟨other, hother, howner⟩) hkey

omit [Platform] in
theorem publicKey_fresh (hident : grant.identityId ∉ grants.map (·.2.identityId))
    (h : ((of grants).publicKeyOwners.lookup grant.publicKeyHex).any (· ≠ grant.identityId) = false)
    : grant.publicKeyHex ∉ grants.map (·.2.publicKeyHex) := by
  rw [← lookup_publicKeyOwners_eq_none]
  cases hlook : (of grants).publicKeyOwners.lookup grant.publicKeyHex with
  | none => rfl
  | some owner =>
    rw [hlook, Option.any_some, decide_eq_false_iff_not, not_not] at h
    obtain ⟨other, hother, heq⟩ := mem_map.mp (mem_of_lookup hlook)
    exact absurd (mem_map.mpr ⟨other, hother, (Prod.mk.inj heq).2.trans h⟩) hident

omit [Platform] in
theorem of_concat (hkey : key ∉ grants.map Prod.fst)
    (hident : grant.identityId ∉ grants.map (·.2.identityId))
    (hpk : grant.publicKeyHex ∉ grants.map (·.2.publicKeyHex))
    : (⟨set key grant grants, set grant.identityId (key, grant.publicKeyHex) (of grants).identities,
        set grant.publicKeyHex grant.identityId (of grants).publicKeyOwners⟩ : ParsedGrants) =
      of (grants ++ [(key, grant)]) := by
  rw [set_of_lookup_none (lookup_eq_none.mpr hkey),
    set_of_lookup_none (lookup_identities_eq_none.mpr hident),
    set_of_lookup_none (lookup_publicKeyOwners_eq_none.mpr hpk)]
  simp [of]

end ParsedGrants

theorem parseTrustGrant_of (hkey : entry.1 ∉ grants.map Prod.fst)
    : parseTrustGrant (.of grants) entry = .ok parsed ↔
      ∃ grant, parseEntry entry = .ok grant ∧
        grant.2.identityId ∉ grants.map (·.2.identityId) ∧
        grant.2.publicKeyHex ∉ grants.map (·.2.publicKeyHex) ∧
        .of (grants ++ [grant]) = parsed := by
  simp only [parseTrustGrant, bind_eq_ok, exists_unit, raiseIf_eq_ok, pure_inj, parseEntry_eq_ok]
  constructor
  . rintro ⟨hne, grant, hgrant, hident, hpk, rfl⟩
    have hident := ParsedGrants.identity_fresh hkey hident
    have hpk := ParsedGrants.publicKey_fresh hident hpk
    exact ⟨(entry.1, grant), ⟨by simpa using hne, hgrant, rfl⟩, hident, hpk,
      (ParsedGrants.of_concat hkey hident hpk).symm⟩
  . rintro ⟨⟨_, grant⟩, ⟨hne, hgrant, rfl⟩, hident, hpk, rfl⟩
    refine ⟨by simpa using hne, grant, hgrant, ?_, ?_,
      ParsedGrants.of_concat hkey hident hpk⟩
    . rw [ParsedGrants.lookup_identities_eq_none.mpr hident, Option.any_none]
    . rw [ParsedGrants.lookup_publicKeyOwners_eq_none.mpr hpk, Option.any_none]

theorem parsed_concat
    : Parsed (entries ++ [entry]) grants ↔
      ∃ grants' grant, Parsed entries grants' ∧ parseEntry entry = .ok grant ∧
        grant.2.identityId ∉ grants'.map (·.2.identityId) ∧
        grant.2.publicKeyHex ∉ grants'.map (·.2.publicKeyHex) ∧ grants' ++ [grant] = grants := by
  constructor
  . rintro ⟨heach, hidents, hpks⟩
    simp only [mapM_append, mapM_cons, mapM_nil, bind_eq_ok, pure_inj] at heach
    obtain ⟨grants', hgrants, _, ⟨grant, hgrant, _, rfl, rfl⟩, rfl⟩ := heach
    obtain ⟨hident, hidents⟩ := nodup_map_concat.mp hidents
    obtain ⟨hpk, hpks⟩ := nodup_map_concat.mp hpks
    exact ⟨grants', grant, ⟨hgrants, hidents, hpks⟩, hgrant, hident, hpk, rfl⟩
  . rintro ⟨grants', grant, h, hgrant, hident, hpk, rfl⟩
    refine ⟨?_, nodup_map_concat.mpr ⟨hident, h.identities⟩,
      nodup_map_concat.mpr ⟨hpk, h.publicKeys⟩⟩
    simp [h.each, hgrant, ok_bind, pure_eq_ok]

theorem foldlM_parseTrustGrant (huniq : Assoc.Unique entries)
    : entries.foldlM parseTrustGrant (.of []) = .ok parsed ↔
      ∃ grants, Parsed entries grants ∧ .of grants = parsed := by
  induction entries using reverseRecOn generalizing parsed with
  | nil =>
    simp only [foldlM_nil, pure_inj]
    constructor
    . intro h
      exact ⟨[], ⟨rfl, by simp, by simp⟩, h⟩
    . rintro ⟨grants, h, rfl⟩
      obtain rfl := Except.ok.inj h.each
      rfl
  | append_singleton entries entry ih =>
    obtain ⟨hfresh, huniq⟩ := nodup_map_concat.mp huniq
    have hkey : ∀ grants, Parsed entries grants → entry.1 ∉ grants.map Prod.fst :=
      fun grants hgrants => hgrants.keys ▸ hfresh
    simp only [foldlM_append, foldlM_cons, foldlM_nil, bind_eq_ok, pure_inj,
      ih huniq, parsed_concat]
    constructor
    . rintro ⟨_, ⟨grants, hgrants, rfl⟩, _, hstep, rfl⟩
      obtain ⟨grant, hgrant, hident, hpk, rfl⟩ :=
        (parseTrustGrant_of (hkey _ hgrants)).mp hstep
      exact ⟨_, ⟨grants, grant, hgrants, hgrant, hident, hpk, rfl⟩, rfl⟩
    . rintro ⟨_, ⟨grants, grant, hgrants, hgrant, hident, hpk, rfl⟩, rfl⟩
      exact ⟨_, ⟨grants, hgrants, rfl⟩, _, (parseTrustGrant_of (hkey _ hgrants)).mpr
        ⟨grant, hgrant, hident, hpk, rfl⟩, rfl⟩

theorem parseTrustGrants_eq_ok (huniq : Assoc.Unique entries)
    : parseTrustGrants entries = .ok grants ↔ entries ≠ [] ∧ Parsed entries grants := by
  have hfold : ∀ parsed, entries.foldlM parseTrustGrant ⟨[], [], []⟩ = .ok parsed ↔
      ∃ grants, Parsed entries grants ∧ .of grants = parsed :=
    fun _ => foldlM_parseTrustGrant huniq
  simp only [parseTrustGrants, bind_eq_ok, exists_unit, raiseIf_eq_ok, decide_eq_false_iff_not,
    hfold, pure_inj, ne_eq]
  constructor
  . rintro ⟨hne, _, ⟨grants, hgrants, rfl⟩, rfl⟩
    exact ⟨hne, hgrants⟩
  . rintro ⟨hne, hgrants⟩
    exact ⟨hne, _, ⟨grants, hgrants, rfl⟩, rfl⟩

def signerTable (c : Config) (r : Registry) : List (String × Grant × SignerRole) :=
  Assoc.set c.assignerKeyId (c.assignerGrant, .assigner)
    ((r.grants.filter fun grant => "validator" ∈ grant.roles).map fun grant =>
      (grant.keyId, grant, .validator))

def trustGrant (signer : Grant × SignerRole) : TrustGrant :=
  ⟨signer.1.identity, Hex.encode signer.1.key.raw, [signer.2.value]⟩

def signerGrant (signer : Grant × SignerRole) : SignerTrustGrant :=
  ⟨signer.1.identity, Hex.encode signer.1.key.raw, [signer.2]⟩

def Config.settlementGrant (c : Config) : SignerTrustGrant :=
  ⟨"mesh-settlement", Hex.encode (Platform.publicKey c.receiptKey).raw, [.settlement]⟩

variable {c : Config} {r : Registry}

theorem Registry.Sound.unique_validators (h : r.Sound)
    : Assoc.Unique ((r.grants.filter fun grant => "validator" ∈ grant.roles).map fun grant =>
      (grant.keyId, grant, SignerRole.validator)) := by
  have hkeyIds : (r.grants.map Grant.keyId).Nodup := by
    rw [Registry.grants, map_map]
    exact h.unique.nodup_map.mpr fun _ _ _ _ => h.keyId_inj
  rw [Assoc.Unique, map_map]
  exact (filter_sublist.map _).nodup hkeyIds

theorem Registry.Sound.unique_signerTable (h : r.Sound) : Assoc.Unique (signerTable c r) :=
  h.unique_validators.set _ _

theorem Registry.Sound.lookup_signerTable (h : r.Sound)
    : (signerTable c r).lookup keyId = some signer ↔
      (keyId = c.assignerKeyId ∧ signer = (c.assignerGrant, .assigner)) ∨
      (keyId ≠ c.assignerKeyId ∧ keyId = signer.1.keyId ∧ signer.2 = .validator ∧
        r.identities.lookup signer.1.identity = some signer.1 ∧ "validator" ∈ signer.1.roles) := by
  rw [signerTable, lookup_set]
  split
  . next heq => simp [heq, eq_comm]
  . next hne =>
    rw [h.unique_validators.lookup_eq_some, mem_map]
    simp only [hne, false_and, ne_eq, not_false_eq_true, true_and, false_or, mem_filter,
      decide_eq_true_eq, Prod.mk.injEq]
    constructor
    . rintro ⟨grant, ⟨hgrant, hrole⟩, rfl, rfl⟩
      exact ⟨rfl, rfl, h.mem_grants.mp hgrant, hrole⟩
    . rintro ⟨rfl, hvalidator, hgrant, hrole⟩
      exact ⟨signer.1, ⟨h.mem_grants.mpr hgrant, hrole⟩, rfl, by rw [← hvalidator]⟩

theorem Registry.Sound.mem_signerTable (h : r.Sound) (hsigner : (keyId, signer) ∈ signerTable c r)
    : (keyId = c.assignerKeyId ∧ signer = (c.assignerGrant, .assigner)) ∨
      (keyId ≠ c.assignerKeyId ∧ keyId = signer.1.keyId ∧ signer.2 = .validator ∧
        r.identities.lookup signer.1.identity = some signer.1 ∧ "validator" ∈ signer.1.roles) :=
  h.lookup_signerTable.mp (h.unique_signerTable.lookup_eq_some.mpr hsigner)

theorem Registry.Sound.lookup_assigner (h : r.Sound)
    : (signerTable c r).lookup c.assignerKeyId = some (c.assignerGrant, .assigner) :=
  h.lookup_signerTable.mpr (.inl ⟨rfl, rfl⟩)

theorem Registry.Sound.lookup_validator (h : r.Sound)
    (hgrant : r.identities.lookup name = some grant) (hrole : "validator" ∈ grant.roles)
    (hne : grant.keyId ≠ c.assignerKeyId)
    : (signerTable c r).lookup grant.keyId = some (grant, .validator) :=
  h.lookup_signerTable.mpr (.inr ⟨hne, rfl, rfl, (h.grants _ _ hgrant).1 ▸ hgrant, hrole⟩)

theorem keyIdForPublicKey_ne (h : text.toList.length ≠ 64) (key : PublicKey)
    : keyIdForPublicKey key ≠ text := by
  rintro rfl
  exact h (length_of_isCanonical (isCanonical_sha256 _))

theorem Registry.Sound.settlement_notMem (h : r.Sound)
    : receiptSignerKeyId ∉ (signerTable c r).map Prod.fst := by
  intro hmem
  obtain ⟨⟨keyId, signer⟩, hsigner, hkeyId⟩ := mem_map.mp hmem
  rcases h.mem_signerTable hsigner with ⟨rfl, -⟩ | ⟨-, rfl, -, hgrant, -⟩
  . exact keyIdForPublicKey_ne (by decide) _ hkeyId
  . have hvalid := (h.grants _ _ hgrant).2
    exact keyIdForPublicKey_ne (by decide) signer.1.key (hvalid.keyId ▸ hkeyId)

theorem Registry.Sound.forall_signer (h : r.Sound) {p : Grant → Prop}
    : (∀ entry ∈ signerTable c r, p entry.2.1) ↔
      p c.assignerGrant ∧ ∀ name grant, r.identities.lookup name = some grant →
        "validator" ∈ grant.roles → grant.keyId ≠ c.assignerKeyId → p grant := by
  constructor
  . intro hall
    refine ⟨hall _ (mem_of_lookup h.lookup_assigner), fun name grant hgrant hrole hne => ?_⟩
    exact hall _ (mem_of_lookup (h.lookup_validator hgrant hrole hne))
  . rintro ⟨hassigner, hvals⟩ ⟨keyId, signer⟩ hentry
    rcases h.mem_signerTable hentry with ⟨-, rfl⟩ | ⟨hne, rfl, -, hgrant, hrole⟩
    . exact hassigner
    . exact hvals _ _ hgrant hrole hne

section Lawful

theorem nodup_signer_identities (h : r.Sound)
    : ((signerTable c r).map (·.2.1.identity)).Nodup ↔
      ∀ name grant, r.identities.lookup name = some grant → "validator" ∈ grant.roles →
        grant.keyId ≠ c.assignerKeyId → name ≠ c.rootId := by
  rw [h.unique_signerTable.nodup_map (f := fun signer => signer.1.identity)]
  constructor
  . rintro hinj name grant hgrant hrole hkeyId rfl
    exact hkeyId (hinj _ _ _ _ (h.lookup_validator hgrant hrole hkeyId) h.lookup_assigner
      (h.grants _ _ hgrant).1)
  . intro hsep keyId keyId' signer signer' hsigner hsigner' heq
    rcases h.lookup_signerTable.mp hsigner with ⟨rfl, rfl⟩ | ⟨hne, rfl, -, hgrant, hrole⟩ <;>
      rcases h.lookup_signerTable.mp hsigner' with ⟨rfl, rfl⟩ | ⟨hne', rfl, -, hgrant', hrole'⟩
    . rfl
    . exact absurd heq.symm (hsep _ _ hgrant' hrole' hne')
    . exact absurd heq (hsep _ _ hgrant hrole hne)
    . rw [heq, hgrant', Option.some.injEq] at hgrant
      rw [hgrant]

variable [Platform.Lawful]

theorem Config.assignerGrant_valid (hc : IsIdentity c.rootId) : c.assignerGrant.Valid where
  identity := hc
  keyId := rfl
  roles_ne := by simp [assignerGrant]
  roles := by
    intro role hrole
    obtain rfl : role = "assigner" := by simpa [assignerGrant] using hrole
    exact ⟨by rw [Platform.Lawful.strip_plain _ (by decide)]; decide,
      (normalizeRole_plain (by decide)).symm⟩
  exclusive := by
    intro _
    simp [assignerGrant, votingRoles]

theorem receiptTrustRegistry_eq (h : r.Sound)
    : receiptTrustRegistry c r =
      (signerTable c r).map (fun entry => (entry.1, trustGrant entry.2)) ++
        [(receiptSignerKeyId, ⟨"mesh-settlement",
          encode (Platform.publicKey c.receiptKey).raw, ["settlement"]⟩)] := by
  have hvalidator : normalizeRole "validator" = "validator" := normalizeRole_plain (by decide)
  have hassigner : normalizeRole "assigner" = "assigner" := normalizeRole_plain (by decide)
  have hvals : exportTrustGrants r.grants "validator" =
      (r.grants.filter fun grant => "validator" ∈ grant.roles).map fun grant =>
        (grant.keyId, trustGrant (grant, .validator)) := by
    have huniq := h.unique_validators
    rw [Assoc.Unique, map_map] at huniq
    simp only [exportTrustGrants, hvalidator]
    exact Assoc.foldl_set (l := []) _ _ huniq
  have htable : (signerTable c r).map (fun entry => (entry.1, trustGrant entry.2)) =
      Assoc.set c.assignerKeyId (trustGrant (c.assignerGrant, .assigner))
        (exportTrustGrants r.grants "validator") := by
    rw [signerTable, Assoc.map_set, map_map, hvals]
    rfl
  rw [htable, ← Assoc.set_of_lookup_none]
  . simp [receiptTrustRegistry, exportTrustGrants, Config.assignerTrustRoot, Registry.grants,
      Config.assignerGrant, hassigner, Assoc.set, trustGrant, SignerRole.value]
  . rw [← htable, Assoc.lookup_eq_none, map_map]
    exact h.settlement_notMem

def voteRole : SignerRole → String
  | .assigner => "assigner"
  | _ => "voter"

def voteGrant (signer : Grant × SignerRole) : Grant :=
  { signer.1 with roles := {voteRole signer.2} }

theorem voteRole_canonical (role : SignerRole)
    : Platform.strip (voteRole role) ≠ "" ∧ normalizeRole (voteRole role) = voteRole role := by
  have hplain : (voteRole role).toList.all isPlain ∧ voteRole role ≠ "" := by
    cases role <;> decide
  rw [Platform.Lawful.strip_plain _ hplain.1]
  exact ⟨hplain.2, normalizeRole_plain hplain.1⟩

theorem candidateGrant_voteGrant (hvalid : signer.1.Valid)
    : Registry.candidateGrant signer.1.identity signer.1.key [voteRole signer.2] =
      .ok (voteGrant signer) := by
  rw [Registry.candidateGrant_eq_ok]
  refine ⟨⟨by simpa using (voteRole_canonical signer.2).1, by simp⟩, _, hvalid.identity, ?_⟩
  simp [Registry.grantOf, voteGrant, (voteRole_canonical signer.2).2, hvalid.keyId]

theorem voteGrant_valid (hvalid : signer.1.Valid)
    : (voteGrant signer).Valid where
  identity := hvalid.identity
  keyId := hvalid.keyId
  roles_ne := by simp [voteGrant]
  roles := by
    intro role hrole
    obtain rfl : role = voteRole signer.2 := by simpa [voteGrant] using hrole
    exact ⟨(voteRole_canonical _).1, (voteRole_canonical _).2.symm⟩
  exclusive := by
    intro hassigner
    have hrole : "assigner" = voteRole signer.2 := Finset.mem_singleton.mp hassigner
    change Disjoint {voteRole signer.2} votingRoles
    rw [← hrole]
    decide

def Signs (entry : String × Grant × SignerRole) : Prop :=
  entry.2.1.Valid ∧ entry.1 = entry.2.1.keyId ∧
    (entry.2.2 = .validator ∨ entry.2.2 = .assigner)

structure Registrable (signers : List (String × Grant × SignerRole)) : Prop where
  valid : ∀ signer ∈ signers, Signs signer
  keyIds : (signers.map (·.2.1.keyId)).Nodup
  identities : (signers.map (·.2.1.identity)).Nodup
  keys : (signers.map (·.2.1.key)).Nodup

omit [Platform.Lawful] in
theorem registrable_concat (h : Registrable (signers ++ [signer]))
    : Registrable signers ∧ Signs signer ∧
      signer.2.1.keyId ∉ signers.map (·.2.1.keyId) ∧
      signer.2.1.identity ∉ signers.map (·.2.1.identity) ∧
      signer.2.1.key ∉ signers.map (·.2.1.key) := by
  obtain ⟨hkeyId, hkeyIds⟩ := nodup_map_concat.mp h.keyIds
  obtain ⟨hident, hidents⟩ := nodup_map_concat.mp h.identities
  obtain ⟨hkey, hkeys⟩ := nodup_map_concat.mp h.keys
  exact ⟨⟨fun e he => h.valid e (mem_append_left _ he), hkeyIds, hidents, hkeys⟩,
    h.valid signer (by simp), hkeyId, hident, hkey⟩

theorem registerTrustGrant_signer (hsound : registry.Sound) (hvalid : Signs signer)
    (hfresh : registry.identities.lookup signer.2.1.identity = none)
    (ha : registry.Admissible (voteGrant signer.2))
    : registerTrustGrant registry (signer.1, signerGrant signer.2) =
      .ok (registry.rotate (voteGrant signer.2)) := by
  obtain ⟨hvalid, hkeyId, hrole⟩ := hvalid
  have hroles : voteRoles (signerGrant signer.2).roles = [voteRole signer.2.2] := by
    rcases hrole with hrole | hrole <;> simp [voteRoles, signerGrant, hrole, voteRole]
  have hkey : publicKeyFrom (.bytes ((decode (signerGrant signer.2).publicKeyHex).getD [])) =
      .ok signer.2.1.key := by
    rw [signerGrant, decode_encode, Option.getD_some, publicKeyFrom, publicKeyFromRaw,
      dif_pos signer.2.1.key.length_raw]
  have hregister : registry.register (signerGrant signer.2).identityId signer.2.1.key
      [voteRole signer.2.2] = .ok (registry.rotate (voteGrant signer.2)) :=
    hsound.register_of_fresh (candidateGrant_voteGrant hvalid) hfresh ha
  have hfingerprint : signer.1 = keyIdForPublicKey signer.2.1.key := hkeyId.trans hvalid.keyId
  simp [registerTrustGrant, hroles, hkey, ok_bind, hregister, hfingerprint, raiseIf, pure_eq_ok]

theorem foldlM_registerTrustGrant (h : Registrable signers)
    : ∃ registry, (signers.map fun signer => (signer.1, signerGrant signer.2)).foldlM
        registerTrustGrant .empty = .ok registry ∧ registry.Sound ∧
      ∀ name grant, registry.identities.lookup name = some grant ↔
        ∃ signer ∈ signers, signer.2.1.identity = name ∧ voteGrant signer.2 = grant := by
  induction signers using reverseRecOn with
  | nil => exact ⟨.empty, rfl, Registry.sound_empty, by simp [Registry.empty]⟩
  | append_singleton signers signer ih =>
    obtain ⟨hsigners, hvalid, hkeyId, hident, hkey⟩ := registrable_concat h
    obtain ⟨registry, hreg, hsound, hlook⟩ := ih hsigners
    have hfresh : registry.identities.lookup signer.2.1.identity = none := by
      cases hgrant : registry.identities.lookup signer.2.1.identity with
      | none => rfl
      | some grant =>
        obtain ⟨other, hother, hname, -⟩ := (hlook _ _).mp hgrant
        exact absurd (mem_map.mpr ⟨other, hother, hname⟩) hident
    have hadmissible : registry.Admissible (voteGrant signer.2) := by
      refine ⟨voteGrant_valid hvalid.1, ?_, ?_⟩
      . intro name grant hgrant _ heq
        obtain ⟨other, hother, -, rfl⟩ := (hlook _ _).mp hgrant
        exact hkey (mem_map.mpr ⟨other, hother, heq⟩)
      . intro name howner
        obtain ⟨grant, hgrant, heq⟩ := (hsound.owners _ _).mp howner
        obtain ⟨other, hother, -, rfl⟩ := (hlook _ _).mp hgrant
        exact absurd (mem_map.mpr ⟨other, hother, heq⟩) hkeyId
    refine ⟨registry.rotate (voteGrant signer.2), ?_, hsound.rotate hadmissible, ?_⟩
    . rw [map_append, foldlM_append, hreg]
      simp [ok_bind, registerTrustGrant_signer hsound hvalid hfresh hadmissible, pure_eq_ok]
    . intro name grant
      rw [Registry.lookup_rotate]
      have hself : (voteGrant signer.2).identity = signer.2.1.identity := rfl
      simp only [mem_append, mem_singleton, or_and_right, exists_or, exists_eq_left, ← hlook, hself]
      by_cases hname : name = signer.2.1.identity
      . rw [if_pos hname, Option.some.injEq, hname, hfresh]
        simp
      . rw [if_neg hname]
        simp [Ne.symm hname]

/--
The assignment authority, the signer of the receipts and the validators have different identities
and keys. A validator under the key of the authority is not exported.
-/
structure Separate (c : Config) (r : Registry) : Prop where
  authority : c.rootId ≠ "mesh-settlement"
  authorityKey : Platform.publicKey c.assignerKey ≠ Platform.publicKey c.receiptKey
  validators : ∀ name grant, r.identities.lookup name = some grant → "validator" ∈ grant.roles →
    grant.keyId ≠ c.assignerKeyId →
      name ≠ c.rootId ∧ name ≠ "mesh-settlement" ∧ grant.key ≠ Platform.publicKey c.receiptKey

theorem signer_valid (hc : IsIdentity c.rootId) (h : r.Sound)
    {entry : String × Grant × SignerRole} (hentry : entry ∈ signerTable c r) : Signs entry := by
  rcases h.mem_signerTable hentry with ⟨hkeyId, hsigner⟩ | ⟨-, hkeyId, hrole, hgrant, -⟩
  . rw [Signs, hkeyId, hsigner]
    exact ⟨c.assignerGrant_valid hc, rfl, .inr rfl⟩
  . exact ⟨(h.grants _ _ hgrant).2, hkeyId, .inl hrole⟩

omit [Platform.Lawful] in
theorem parseEntry_signer {entry : String × Grant × SignerRole} (hvalid : Signs entry)
    : parseEntry (entry.1, trustGrant entry.2) = .ok (entry.1, signerGrant entry.2) := by
  obtain ⟨hvalid, hkeyId, hrole⟩ := hvalid
  have hne : entry.1 ≠ "" := by
    rw [hkeyId, hvalid.keyId]
    exact keyIdForPublicKey_ne (by decide) _
  have hroles : rolesOf [entry.2.2.value] = .ok [entry.2.2] := by
    rcases hrole with hrole | hrole <;> rw [hrole] <;> rfl
  have hhex : isCanonical 64 (encode entry.2.1.key.raw) = true :=
    isCanonical_encode (by rw [entry.2.1.key.length_raw])
  rw [parseEntry_eq_ok]
  refine ⟨hne, ?_, rfl⟩
  have hident : normalizeVoterId entry.2.1.identity = .ok entry.2.1.identity := hvalid.identity
  simp only [SignerTrustGrant.ofGrant, trustGrant, hident, hhex, hroles, ok_bind, Apcc.ensure_true]
  rcases hrole with hrole | hrole <;> simp [hrole, raiseIf, signerGrant]

theorem parseEntry_settlement (c : Config)
    : parseEntry (receiptSignerKeyId, ⟨"mesh-settlement",
        encode (Platform.publicKey c.receiptKey).raw, ["settlement"]⟩) =
      .ok (receiptSignerKeyId, c.settlementGrant) := by
  have hident : normalizeVoterId "mesh-settlement" = .ok "mesh-settlement" :=
    isIdentity_plain (by decide) (by decide)
  have hhex : isCanonical 64 (encode (Platform.publicKey c.receiptKey).raw) = true :=
    isCanonical_encode (by rw [(Platform.publicKey c.receiptKey).length_raw])
  have hroles : rolesOf ["settlement"] = .ok [.settlement] := rfl
  rw [parseEntry_eq_ok]
  refine ⟨show receiptSignerKeyId ≠ "" by decide, ?_, rfl⟩
  simp [SignerTrustGrant.ofGrant, hident, hhex, hroles, raiseIf, Config.settlementGrant]

def signerGrants (c : Config) (r : Registry) : SignerGrants :=
  (signerTable c r).map (fun entry => (entry.1, signerGrant entry.2)) ++
    [(receiptSignerKeyId, c.settlementGrant)]

theorem mapM_parseEntry_receiptTrustRegistry (hc : IsIdentity c.rootId) (h : r.Sound)
    : (receiptTrustRegistry c r).mapM parseEntry = .ok (signerGrants c r) := by
  have hsigners : (signerTable c r).mapM (parseEntry ∘ fun entry => (entry.1, trustGrant entry.2)) =
      .ok ((signerTable c r).map fun entry => (entry.1, signerGrant entry.2)) :=
    Except.mapM_of_forall fun entry hentry => parseEntry_signer (signer_valid hc h hentry)
  rw [receiptTrustRegistry_eq h, mapM_append, mapM_map, hsigners]
  simp [parseEntry_settlement, ok_bind, pure_eq_ok, signerGrants]

theorem unique_receiptTrustRegistry (h : r.Sound)
    : Assoc.Unique (receiptTrustRegistry c r) := by
  rw [Assoc.Unique, receiptTrustRegistry_eq h, nodup_map_concat, map_map]
  exact ⟨h.settlement_notMem, h.unique_signerTable⟩

theorem nodup_signer_keys (hc : IsIdentity c.rootId) (h : r.Sound)
    : ((signerTable c r).map (·.2.1.key)).Nodup := by
  refine (h.unique_signerTable.nodup_map (f := fun signer => signer.1.key)).mpr ?_
  intro keyId keyId' signer signer' hsigner hsigner' heq
  obtain ⟨hvalid, hkeyId, -⟩ := signer_valid hc h (mem_of_lookup hsigner)
  obtain ⟨hvalid', hkeyId', -⟩ := signer_valid hc h (mem_of_lookup hsigner')
  calc keyId = keyIdForPublicKey signer.1.key := hkeyId.trans hvalid.keyId
    _ = keyIdForPublicKey signer'.1.key := by rw [heq]
    _ = keyId' := (hkeyId'.trans hvalid'.keyId).symm

theorem parseTrustGrants_receiptTrustRegistry (hc : IsIdentity c.rootId) (h : r.Sound)
    {grants : SignerGrants}
    : parseTrustGrants (receiptTrustRegistry c r) = .ok grants ↔
      Separate c r ∧ signerGrants c r = grants := by
  have hentries := mapM_parseEntry_receiptTrustRegistry hc h
  have hne : receiptTrustRegistry c r ≠ [] := by simp [receiptTrustRegistry_eq h]
  have hidents : ((signerGrants c r).map (·.2.identityId)).Nodup ↔
      "mesh-settlement" ∉ (signerTable c r).map (·.2.1.identity) ∧
        ((signerTable c r).map (·.2.1.identity)).Nodup := by
    rw [signerGrants, nodup_map_concat, map_map]
    rfl
  have hkeys : ((signerGrants c r).map (·.2.publicKeyHex)).Nodup ↔
      Platform.publicKey c.receiptKey ∉ (signerTable c r).map (·.2.1.key) := by
    have hsigners := (nodup_signer_keys hc h).map
      (f := fun key : PublicKey => encode key.raw) fun _ _ => encode_raw_inj.mp
    rw [signerGrants, nodup_map_concat, map_map]
    rw [map_map] at hsigners
    refine (and_iff_left hsigners).trans (not_congr ?_)
    simp [Config.settlementGrant, signerGrant, encode_raw_inj]
  have hnames := h.forall_signer (c := c) (p := fun grant => grant.identity ≠ "mesh-settlement")
  have hothers := h.forall_signer (c := c)
    (p := fun grant => grant.key ≠ Platform.publicKey c.receiptKey)
  have hdist : (((signerGrants c r).map (·.2.identityId)).Nodup ∧
      ((signerGrants c r).map (·.2.publicKeyHex)).Nodup) ↔ Separate c r := by
    rw [hidents, hkeys, nodup_signer_identities h]
    simp only [mem_map, not_exists, not_and]
    constructor
    . rintro ⟨⟨hname, hauth⟩, hkey⟩
      obtain ⟨hassigner, hvals⟩ := hnames.mp hname
      obtain ⟨hassignerKey, hvalidatorKeys⟩ := hothers.mp hkey
      refine ⟨hassigner, hassignerKey, fun name grant hgrant hrole hne => ?_⟩
      exact ⟨hauth _ _ hgrant hrole hne, (h.grants _ _ hgrant).1 ▸ hvals _ _ hgrant hrole hne,
        hvalidatorKeys _ _ hgrant hrole hne⟩
    . intro hsep
      refine ⟨⟨hnames.mpr ⟨hsep.authority, ?_⟩, ?_⟩, hothers.mpr ⟨hsep.authorityKey, ?_⟩⟩ <;>
        intro name grant hgrant hrole hne <;>
        obtain ⟨hauth, hname, hkey⟩ := hsep.validators _ _ hgrant hrole hne
      . exact (h.grants _ _ hgrant).1.symm ▸ hname
      . exact hauth
      . exact hkey
  rw [parseTrustGrants_eq_ok (unique_receiptTrustRegistry h)]
  constructor
  . rintro ⟨-, heach, hident, hkey⟩
    obtain rfl := Except.ok.inj (hentries.symm.trans heach)
    exact ⟨hdist.mp ⟨hident, hkey⟩, rfl⟩
  . rintro ⟨hsep, rfl⟩
    obtain ⟨hident, hkey⟩ := hdist.mpr hsep
    exact ⟨hne, hentries, hident, hkey⟩

theorem Separate.registrable (hsep : Separate c r) (hc : IsIdentity c.rootId) (h : r.Sound)
    : Registrable (signerTable c r) where
  valid _ := signer_valid hc h
  keyIds := by
    have hkeyIds : (signerTable c r).map (·.2.1.keyId) = (signerTable c r).map Prod.fst :=
      map_congr_left fun _ hentry => (signer_valid hc h hentry).2.1.symm
    rw [hkeyIds]
    exact h.unique_signerTable
  identities := (nodup_signer_identities h).mpr fun name grant hgrant hrole hne =>
    (hsep.validators name grant hgrant hrole hne).1
  keys := nodup_signer_keys hc h

structure IsVoteRegistry (c : Config) (r registry : Registry) : Prop where
  sound : registry.Sound
  lookup_eq_some : ∀ name grant, registry.identities.lookup name = some grant ↔
    ∃ entry ∈ signerTable c r, entry.2.1.identity = name ∧ voteGrant entry.2 = grant

theorem Separate.exists_voteRegistry (hsep : Separate c r) (hc : IsIdentity c.rootId) (h : r.Sound)
    : ∃ registry, voteRegistryFromGrants (signerGrants c r) = .ok registry ∧
      IsVoteRegistry c r registry := by
  obtain ⟨registry, hreg, hsound, hlook⟩ :=
    foldlM_registerTrustGrant (hsep.registrable hc h)
  refine ⟨registry, ?_, hsound, hlook⟩
  -- The key of the receipts has no role among the voters.
  have hsettlement : registerTrustGrant registry (receiptSignerKeyId, c.settlementGrant) =
      .ok registry := rfl
  rw [voteRegistryFromGrants, signerGrants, foldlM_append, hreg]
  simp [ok_bind, hsettlement, pure_eq_ok]

variable {registry : Registry}

omit [Platform.Lawful] in
theorem IsVoteRegistry.lookup_assigner (hr : IsVoteRegistry c r registry) (h : r.Sound)
    : registry.identities.lookup c.rootId = some c.assignerGrant :=
  (hr.lookup_eq_some _ _).mpr ⟨_, mem_of_lookup h.lookup_assigner, rfl, rfl⟩

theorem IsVoteRegistry.authorize_voter (hr : IsVoteRegistry c r registry) (h : r.Sound)
    : registry.authorize voterId keyId "voter" = .ok key ↔
      r.authorize voterId keyId "validator" = .ok key ∧ keyId ≠ c.assignerKeyId := by
  have hvoter : normalizeRole "voter" = "voter" := normalizeRole_plain (by decide)
  have hvalidator : normalizeRole "validator" = "validator" := normalizeRole_plain (by decide)
  simp only [Registry.authorize_eq_ok, hr.lookup_eq_some, hvoter, hvalidator]
  constructor
  . rintro ⟨_, hname, hkeyId, _, ⟨⟨keyId, signer⟩, hentry, rfl, rfl⟩, rfl, hrole, rfl⟩
    rcases h.mem_signerTable hentry with ⟨-, rfl⟩ | ⟨hne, rfl, -, hgrant, hvalid⟩
    . exact absurd hrole (by simp [voteGrant, voteRole])
    . exact ⟨⟨_, hname, hkeyId, _, hgrant, rfl, hvalid, rfl⟩, hne⟩
  . rintro ⟨⟨name, hname, hkeyId, grant, hgrant, rfl, hrole, rfl⟩, hne⟩
    have hentry := mem_of_lookup (h.lookup_validator hgrant hrole hne)
    exact ⟨name, hname, hkeyId, _, ⟨_, hentry, (h.grants _ _ hgrant).1, rfl⟩, rfl,
      by simp [voteGrant, voteRole], rfl⟩

end Lawful

end Mesh
