import ConstitutionalSwarm.Apcc.CertificateEncoding
import ConstitutionalSwarm.Apcc.Store.Status

namespace Json

variable {α : Type} {d pairs entries : List (String × α)}

theorem mem_keys_dictSet {k key : String} {value : α}
    : k ∈ (dictSet key value d).map Prod.fst ↔ k = key ∨ k ∈ d.map Prod.fst := by
  induction d with
  | nil => simp [dictSet]
  | cons q d ih =>
    rw [dictSet]
    split_ifs with hlt heq
    . simp
    . simp [heq]
    . rw [List.map_cons, List.mem_cons, ih, List.map_cons, List.mem_cons, or_left_comm]

theorem mem_keys_dict {k : String} : k ∈ (dict pairs).map Prod.fst ↔ k ∈ pairs.map Prod.fst := by
  suffices ∀ d, k ∈ (pairs.foldl (fun d p => dictSet p.1 p.2 d) d).map Prod.fst ↔
      k ∈ pairs.map Prod.fst ∨ k ∈ d.map Prod.fst by
    simpa [dict] using this []
  induction pairs with
  | nil => simp
  | cons q pairs ih => intro d; simp [ih, mem_keys_dictSet, or_left_comm, or_assoc]

theorem dict_eq_of_lookup (hentries : SortedKeys entries)
    (hkeys : ∀ k ∈ entries.map Prod.fst, k ∈ pairs.map Prod.fst)
    (hlook : ∀ e ∈ pairs, entries.lookup e.1 = some e.2) : dict pairs = entries :=
  (eq_of_lookup hentries (sortedKeys_dict pairs) (fun k hk => mem_keys_dict.mpr (hkeys k hk))
    fun e he => hlook e (mem_dict he)).symm

end Json

namespace Apcc

open List

def AuthorityStatusValue.ofValue (value : String) : Py AuthorityStatusValue :=
  if value = "current" then .ok .current
  else if value = "revoked" then .ok .revoked
  else .error (.valueError (value ++ " is not a valid AuthorityStatusValue"))

def SupersessionValue.ofValue (value : String) : Py SupersessionValue :=
  if value = "no" then .ok .no
  else if value = "yes" then .ok .yes
  else .error (.valueError (value ++ " is not a valid SupersessionValue"))

namespace AuthorityStatus

def bodyKeys : List String :=
  ["protocol_version", "statement_type", "authority_store_id", "status_key_id", "request_nonce",
    "certificate_digest", "certificate_sequence", "trust_log_sequence", "trust_log_head", "status",
    "actor_revocation_generation", "workflow_revocation_generation", "superseded",
    "this_update_ms", "next_update_ms"]

def fromObject (value : Fields) : Py AuthorityStatus := do
  expectKeys value ["body", "signature"]
  let body ← object (← item value "body")
  expectKeys body bodyKeys
  let protocolVersion ← string body "protocol_version"
  let statementType ← string body "statement_type"
  let authorityStoreId ← string body "authority_store_id"
  let statusKeyId ← string body "status_key_id"
  let requestNonce ← string body "request_nonce"
  let certificateDigest ← string body "certificate_digest"
  let certificateSequence ← string body "certificate_sequence"
  let trustLogSequence ← string body "trust_log_sequence"
  let trustLogHead ← string body "trust_log_head"
  let status ← AuthorityStatusValue.ofValue (← string body "status")
  let actorRevocationGeneration ← string body "actor_revocation_generation"
  let workflowRevocationGeneration ← string body "workflow_revocation_generation"
  let superseded ← SupersessionValue.ofValue (← string body "superseded")
  let thisUpdateMs ← string body "this_update_ms"
  let nextUpdateMs ← string body "next_update_ms"
  let signature ← nested value "signature" Signature.fromObject
  if valid : protocolVersion = "APCC-1.0-draft" ∧ statementType = "apcc.authority-status" then
    return ⟨protocolVersion, statementType, authorityStoreId, statusKeyId, requestNonce,
      certificateDigest, certificateSequence, trustLogSequence, trustLogHead, status,
      actorRevocationGeneration, workflowRevocationGeneration, superseded, thisUpdateMs,
      nextUpdateMs, signature, valid⟩
  else if protocolVersion ≠ "APCC-1.0-draft" then
    throw (.valueError "APCC authority status protocol version is unsupported")
  else throw (.valueError "APCC authority status statement type is unsupported")

def toObject (v : AuthorityStatus) : Json :=
  .obj [("body", v.bodyObject), ("signature", v.signature.toObject)]

end AuthorityStatus

section Codec

theorem AuthorityStatusValue.value_of_ofValue {value : String} {v : AuthorityStatusValue}
    (h : ofValue value = .ok v) : v.value = value := by
  unfold ofValue at h
  split_ifs at h with hcurr hrevoked
  . cases h
    exact hcurr.symm
  . cases h
    exact hrevoked.symm

theorem SupersessionValue.value_of_ofValue {value : String} {v : SupersessionValue}
    (h : ofValue value = .ok v) : v.value = value := by
  unfold ofValue at h
  split_ifs at h with hno hyes
  . cases h
    exact hno.symm
  . cases h
    exact hyes.symm

theorem Bytes.append_zero_inj {a b c d : Bytes} (ha : 0 ∉ a) (hb : 0 ∉ b)
    (h : a ++ 0 :: c = b ++ 0 :: d) : a = b ∧ c = d := by
  induction a generalizing b with
  | nil =>
    cases b with
    | nil => exact ⟨rfl, (cons.inj h).2⟩
    | cons y b => exact absurd ((cons.inj h).1 ▸ mem_cons_self) hb
  | cons x a ih =>
    cases b with
    | nil => exact absurd ((cons.inj h).1 ▸ mem_cons_self) ha
    | cons y b =>
      obtain ⟨rfl, htail⟩ := cons.inj h
      obtain ⟨rfl, rfl⟩ := ih (fun h => ha (.tail _ h)) (fun h => hb (.tail _ h)) htail
      exact ⟨rfl, rfl⟩

theorem domainPreimage_inj {domain domain' payload payload' raw : Bytes}
    (h : domainPreimage domain payload = .ok raw) (h' : domainPreimage domain' payload' = .ok raw)
    : domain = domain' ∧ payload = payload' := by
  have hzero : ∀ d ∈ domains, 0 ∉ d := by decide
  simp only [domainPreimage, bind_eq_ok, raiseIf_eq_ok, pure_inj, decide_eq_false_iff_not,
    not_not] at h h'
  obtain ⟨-, hdomain, rfl⟩ := h
  obtain ⟨-, hdomain', h'⟩ := h'
  exact Bytes.append_zero_inj (hzero _ hdomain) (hzero _ hdomain') h'.symm

variable [Platform]

def statusSchema : Schema :=
  .object [("body", .strings AuthorityStatus.bodyKeys), ("signature", signatureSchema)]

def statusSemantics (value : Fields) : Py Unit := do
  let body ← nested value "body" pure
  requiredLiteral body "protocol_version" "APCC-1.0-draft" .unknownProtocolVersion
  requiredLiteral body "statement_type" "apcc.authority-status" .unsupportedStatementType
  ensure (["current", "revoked"].contains (← string body "status"))
    (.codecError .authorityStatusRevoked)
  ensure (["yes", "no"].contains (← string body "superseded"))
    (.codecError .authorityStatusSuperseded)
  requiredLiteral (← nested value "signature" pure) "algorithm" "Ed25519"
    .unsupportedSignatureAlgorithm

def encodeAuthorityStatus (status : AuthorityStatus) : Py Bytes := do
  let encoded ← canonical status.toObject
  let _ ← decode encoded statusSchema maxPayloadBytes
  return encoded

def decodeAuthorityStatus (raw : Bytes) : Py AuthorityStatus := do
  let value ← decode raw statusSchema maxPayloadBytes
  statusSemantics value
  noncanonical (AuthorityStatus.fromObject value)

def Reorders (v w : Json) : Prop :=
  v.sortKeys = w ∧ ∀ depth, tree depth w = .ok () → tree depth v = .ok ()

theorem Reorders.of_canonical {v : Json} (h : v.Canonical) : Reorders v v :=
  ⟨Json.sortKeys_of_canonical h, fun _ => id⟩

theorem Reorders.obj {fs gs : Fields} (hfs : Json.SortedKeys fs)
    (hkeys : ∀ k ∈ fs.map Prod.fst, k ∈ gs.map Prod.fst)
    (h : ∀ e ∈ gs, ∃ w, fs.lookup e.1 = some w ∧ Reorders e.2 w)
    : Reorders (.obj gs) (.obj fs) := by
  constructor
  . rw [Json.sortKeys, Json.dict_eq_of_lookup hfs]
    . intro k hk
      obtain ⟨e, he, rfl⟩ := mem_map.mp (hkeys k hk)
      exact mem_map.mpr ⟨_, Json.mem_sortKeysFields.mpr ⟨e, he, rfl⟩, rfl⟩
    . intro e he
      obtain ⟨e, hmem, rfl⟩ := Json.mem_sortKeysFields.mp he
      obtain ⟨w, hw, rfl, -⟩ := h e hmem
      exact hw
  . intro depth htree
    simp only [tree, bind_eq_ok, exists_unit, treeFields_eq_ok] at htree ⊢
    refine ⟨htree.1, fun e he => ?_⟩
    obtain ⟨w, hw, -, hback⟩ := h e he
    obtain ⟨hascii, hw⟩ := htree.2 _ (Assoc.mem_of_lookup hw)
    exact ⟨hascii, hback _ hw⟩

theorem Reorders.canonical {v w : Json} {raw : Bytes} (h : Reorders v w) (hw : w.Canonical)
    (hraw : canonical w = .ok raw) : canonical v = .ok raw := by
  obtain ⟨htree, rfl⟩ := (canonical_eq_ok hw).mp hraw
  rw [Apcc.canonical, h.2 1 htree, ok_bind, h.1]
  rfl

theorem AuthorityStatus.reorders_of_fromObject {fields : Fields} {v : AuthorityStatus}
    (hflds : (Json.obj fields).Canonical) (h : fromObject fields = .ok v)
    : Reorders v.toObject (.obj fields) := by
  simp only [fromObject, bind_eq_ok, exists_unit, item_eq_ok, object_eq_ok, string_eq_ok,
    nested_eq_ok] at h
  obtain ⟨hkeys, _, hbody, body, rfl, hbodyKeys, _, hprotocol, _, htype, _, hstore, _, hkeyId, _,
    hnonce, _, hdig, _, hseq, _, htrust, _, hhead, _, hstatus, _, hvalue, _, hactor, _,
    hwf, _, hsup, _, hsupersession, _, hthis, _, hnext, sig,
    ⟨_, hsig, hread⟩, h⟩ := h
  have hstr (s : String) : Reorders (.str s) (.str s) := .of_canonical trivial
  have hsortedBody := canonical_of_lookup hflds hbody
  have hsigned := Signature.toObject_of_fromObject (canonical_of_lookup hflds hsig) hread
  rw [Json.Canonical] at hflds hsortedBody
  split_ifs at h
  cases h
  refine .obj hflds.1 ?_ ?_
  . exact fun k hk => (expectKeys_eq_ok.mp hkeys k).mp hk
  simp only [forall_mem_cons, not_mem_nil, false_implies, implies_true, and_true]
  refine ⟨⟨_, hbody, .obj hsortedBody.1 ?_ ?_⟩, _, hsig, ?_⟩
  . exact fun k hk => (expectKeys_eq_ok.mp hbodyKeys k).mp hk
  . simp [hprotocol, htype, hstore, hkeyId, hnonce, hdig, hseq, htrust, hhead, hstatus, hactor, hwf,
      hsup, hthis, hnext, hstr, AuthorityStatusValue.value_of_ofValue hvalue,
      SupersessionValue.value_of_ofValue hsupersession]
  . rw [← hsigned]
    exact .of_canonical (Signature.canonical_toObject _)

theorem encodeAuthorityStatus_decodeAuthorityStatus {raw : Bytes} {v : AuthorityStatus}
    (h : decodeAuthorityStatus raw = .ok v) : encodeAuthorityStatus v = .ok raw := by
  simp only [decodeAuthorityStatus, bind_eq_ok, exists_unit, noncanonical_eq_ok] at h
  obtain ⟨_, hdec, -, hread⟩ := h
  obtain ⟨hcanon, hraw⟩ := canonical_of_decode hdec
  have henc := (AuthorityStatus.reorders_of_fromObject hcanon hread).canonical hcanon hraw
  rw [encodeAuthorityStatus, henc, ok_bind, hdec]
  rfl

theorem canonicalStatement_inj {v w : Statement} {raw : Bytes}
    (hv : canonicalStatement v = .ok raw) (hw : canonicalStatement w = .ok raw) : v = w := by
  have hsame := Json.obj.inj (canonical_inj v.canonical_toObject w.canonical_toObject hv hw)
  obtain ⟨_, _⟩ := v
  obtain ⟨_, _⟩ := w
  rw [Statement.mk.injEq]
  refine map_injective_iff.mpr ?_ hsame
  rintro ⟨key, value⟩ ⟨key', value'⟩ h
  simpa using h

theorem eq_of_sortByCanonical {ps qs sorted sorted' : List PredecessorRef} (hperm : ps.Perm qs)
    (hps : sortByCanonical PredecessorRef.toObject ps = .ok sorted)
    (hqs : sortByCanonical PredecessorRef.toObject qs = .ok sorted') : sorted = sorted' := by
  -- The sort compares encodings, and different references have different encodings.
  let le (p q : PredecessorRef) : Prop := ∃ a b, canonical p.toObject = .ok a ∧
    canonical q.toObject = .ok b ∧ bytesLe a b
  have hle {items sorted : List PredecessorRef}
      (h : sortByCanonical PredecessorRef.toObject items = .ok sorted) : sorted.Pairwise le := by
    obtain ⟨_, hmems, hpairwise⟩ := pairwise_of_sortByCanonical h
    rw [mapM_map, Except.mapM_eq_ok] at hmems
    obtain ⟨hall, rfl⟩ := hmems
    rw [pairwise_filterMap] at hpairwise
    refine hpairwise.imp_of_mem fun {p q} hp hq h => ?_
    obtain ⟨a, ha⟩ := hall p hp
    obtain ⟨b, hb⟩ := hall q hq
    exact ⟨a, b, ha, hb, h a (Except.toOption_eq_some.mpr ha) b (Except.toOption_eq_some.mpr hb)⟩
  have hsame : sorted.Perm sorted' :=
    (perm_of_sortByCanonical hps).trans (hperm.trans (perm_of_sortByCanonical hqs).symm)
  refine hsame.eq_of_pairwise ?_ (hle hps) (hle hqs)
  rintro p q - - ⟨a, b, ha, hb, hab⟩ ⟨b', a', hb', ha', hba⟩
  obtain rfl := Except.ok.inj (ha.symm.trans ha')
  obtain rfl := Except.ok.inj (hb.symm.trans hb')
  have hbytes : a = b :=
    map_injective_iff.mpr (fun _ _ => UInt8.toNat_inj.mp) (le_antisymm hab hba)
  subst hbytes
  exact PredecessorRef.toObject_injective
    (canonical_inj p.canonical_toObject q.canonical_toObject ha hb)

theorem encodings_commit {ps qs : List PredecessorRef} {p q : String}
    (hps : predecessorRoot ps = .ok p) (hqs : predecessorRoot qs = .ok q)
    (hsha : Set.InjOn Platform.sha256
      {raw | canonicalPredecessors ps = .ok raw ∨ canonicalPredecessors qs = .ok raw})
    : (p = q ↔ ps.Perm qs) ∧
      (∀ v w raw, canonicalStatement v = .ok raw → canonicalStatement w = .ok raw → v = w) ∧
      (∀ domain domain' payload payload' raw, domainPreimage domain payload = .ok raw →
        domainPreimage domain' payload' = .ok raw → domain = domain' ∧ payload = payload') ∧
      ∀ raw v, decodeAuthorityStatus raw = .ok v → encodeAuthorityStatus v = .ok raw := by
  refine ⟨?_, fun _ _ _ => canonicalStatement_inj, fun _ _ _ _ _ => domainPreimage_inj,
    fun _ _ => encodeAuthorityStatus_decodeAuthorityStatus⟩
  simp only [predecessorRoot, bind_eq_ok, pure_inj] at hps hqs
  obtain ⟨raw, hraw, rfl⟩ := hps
  obtain ⟨_, hraw', rfl⟩ := hqs
  constructor
  . intro h
    have hbytes := congrArg Base64.decode h
    rw [sha256Digest, sha256Digest, Base64.decode_encode, Base64.decode_encode, Option.some.injEq]
      at hbytes
    obtain rfl := hsha (.inl hraw) (.inr hraw') hbytes
    simp only [canonicalPredecessors, bind_eq_ok] at hraw hraw'
    obtain ⟨sorted, hsort, hraw⟩ := hraw
    obtain ⟨sorted', hsort', hraw'⟩ := hraw'
    have harr := Json.arr.inj (canonical_inj (PredecessorRef.canonical_arr sorted)
      (PredecessorRef.canonical_arr sorted') hraw hraw')
    obtain rfl := map_injective_iff.mpr PredecessorRef.toObject_injective harr
    exact (perm_of_sortByCanonical hsort).symm.trans (perm_of_sortByCanonical hsort')
  . intro hperm
    simp only [canonicalPredecessors, bind_eq_ok] at hraw hraw'
    obtain ⟨sorted, hsort, hraw⟩ := hraw
    obtain ⟨sorted', hsort', hraw'⟩ := hraw'
    obtain rfl := eq_of_sortByCanonical hperm hsort hsort'
    rw [Except.ok.inj (hraw.symm.trans hraw')]

end Codec

namespace Sample

def ancestor (nodeId : String) : PredecessorRef where
  workflowId := "workflow"
  nodeId
  committedNodeVersion := "1"
  commitId := "commit"
  certificateDigest := "digest"
  outputDigest := "output"

theorem predecessorRoot_swap
    : ∃ p q, predecessorRoot [ancestor "a", ancestor "b"] = .ok p ∧
      predecessorRoot [ancestor "b", ancestor "a"] = .ok q ∧ p = q := by
  have hsame : canonicalPredecessors [ancestor "b", ancestor "a"]
      = canonicalPredecessors [ancestor "a", ancestor "b"] := by
    decide +kernel
  have hok : (predecessorRoot [ancestor "a", ancestor "b"]).isOk := by
    decide +kernel
  cases hroot : predecessorRoot [ancestor "a", ancestor "b"] with
  | error e =>
    rw [hroot] at hok
    cases hok
  | ok p =>
    have hroot' : predecessorRoot [ancestor "b", ancestor "a"] = .ok p := by
      rw [predecessorRoot, hsame]
      exact hroot
    refine ⟨p, p, rfl, hroot', (encodings_commit hroot hroot' ?_).1.mpr (.swap ..)⟩
    intro a ha b hb _
    simp only [hsame, or_self, Set.mem_ofPred_eq] at ha hb
    exact Except.ok.inj (ha.symm.trans hb)

end Sample

end Apcc
