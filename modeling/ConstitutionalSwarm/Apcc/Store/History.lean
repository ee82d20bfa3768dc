import ConstitutionalSwarm.Apcc.Store.Drafts
import ConstitutionalSwarm.Apcc.Store.Ledger
import ConstitutionalSwarm.Apcc.Store.Progress
import ConstitutionalSwarm.Data.Succession

namespace Apcc

open List

theorem insertContext_foldlM {contexts : List CommitContext} {s₀ : Store}
    (hins : contexts.foldlM insertContext s₀ = .ok s)
    : s = { s₀ with logicalNodes := s.logicalNodes, candidates := s.candidates } := by
  refine Except.foldlM_invariant
    (p := fun s => s = { s₀ with logicalNodes := s.logicalNodes, candidates := s.candidates })
    ?_ hins rfl
  intro ctx _ s s' hstep hs
  simp only [insertContext, bind_eq_ok, pure_inj] at hstep
  obtain ⟨_, -, _, -, rfl⟩ := hstep
  rw [hs]

theorem filter_oldDigest {edges : List SupersessionEdgeRow}
    (hdist : edges.Pairwise fun a b => a.oldDigest ≠ b.oldDigest) {e : SupersessionEdgeRow}
    (he : e ∈ edges) : edges.filter (·.oldDigest = e.oldDigest) = [e] := by
  induction edges with
  | nil => simp at he
  | cons a edges ih =>
    obtain ⟨hne, hdist⟩ := pairwise_cons.mp hdist
    rcases mem_cons.mp he with rfl | he
    . rw [filter_cons_of_pos (by simp), filter_eq_nil_iff.mpr]
      intro b hb
      simpa using (hne b hb).symm
    . rw [filter_cons_of_neg (by simpa using hne e he)]
      exact ih hdist he

variable [Platform] {config : AuthorityConfig} {authority : Authority} {s s' : Store}

def CommitCertificate.node (certificate : CommitCertificate) : String × String :=
  (certificate.subject.workflowId, certificate.subject.nodeId)

abbrev NodeSuccession := Succession (String × String) String

structure Represents (config : AuthorityConfig) (s : Store) (h : NodeSuccession) : Prop where
  version : ∀ r ∈ s.logicalNodes,
    r.version = toString (h.chain (r.workflowId, r.nodeId)).length
  pointer : ∀ r ∈ s.logicalNodes,
    r.certificateDigest = (h.chain (r.workflowId, r.nodeId)).getLast?
  node : ∀ k, h.chain k ≠ [] → ∃ r ∈ s.logicalNodes, (r.workflowId, r.nodeId) = k
  committed : ∀ d k v,
    (∃ c, (d, c) ∈ decodedCertificates config s ∧ c.node = k ∧
        c.bindings.committedNodeVersion = v) ↔
      ∃ i, (h.chain k)[i]? = some d ∧ v = toString (i + 1)
  current : ∀ d, s.latestDisposition d = some .current ↔ h.Current d
  superseded : ∀ d, s.latestDisposition d = some .superseded ↔ h.Superseded d
  revoked : ∀ d, s.latestDisposition d = some .revoked ↔ d ∈ h.revoked
  edges : ∀ old new,
    (∃ e ∈ s.supersessionEdges, e.oldDigest = old ∧ e.newDigest = new) ↔ h.Succeeds old new
  edges_distinct : s.supersessionEdges.rows.Pairwise fun a b => a.oldDigest ≠ b.oldDigest

variable {h : NodeSuccession}

theorem Represents.congr (hs : Represents config s h) (hsame : SamePublications s s')
    : Represents config s' h where
  version := hsame.logicalNodes ▸ hs.version
  pointer := hsame.logicalNodes ▸ hs.pointer
  node := hsame.logicalNodes ▸ hs.node
  committed := by
    rw [decodedCertificates_congr hsame.certificates]
    exact hs.committed
  current := by
    simp only [latestDisposition_eq_latestIn, hsame.dispositions]
    exact hs.current
  superseded := by
    simp only [latestDisposition_eq_latestIn, hsame.dispositions]
    exact hs.superseded
  revoked := by
    simp only [latestDisposition_eq_latestIn, hsame.dispositions]
    exact hs.revoked
  edges := hsame.supersessionEdges ▸ hs.edges
  edges_distinct := hsame.supersessionEdges ▸ hs.edges_distinct

theorem Represents.revoke (hs : Represents config s h)
    (hcurr : s.latestDisposition target = some .current)
    (hins : insertDisposition s.certificateDispositions ⟨target, 2, .revoked⟩ = .ok dispositions)
    : Represents config { s with certificateDispositions := dispositions }
        (h.revoke target ((hs.current target).mp hcurr).2) := by
  have hlatest (d : String) :
      ({ s with certificateDispositions := dispositions } : Store).latestDisposition d =
        if d = target then some .revoked else s.latestDisposition d :=
    latestIn_insertDisposition hins d
  refine { hs with current := fun d => ?_, superseded := fun d => ?_, revoked := fun d => ?_ }
  . rw [hlatest, Succession.current_revoke, ← hs.current]
    split <;> simp_all
  . rw [hlatest, Succession.superseded_revoke, ← hs.superseded]
    split <;> simp_all
  . rw [hlatest, Succession.mem_revoked_revoke, ← hs.revoked]
    split <;> simp_all

section Publishes

variable {node : LogicalNodeRow} {row : CertificateRow} {certificate : CommitCertificate}
  {old : Option String} (hpub : Publishes authority s node row certificate old s')

include hpub

theorem Publishes.node_key
    : (node.workflowId, node.nodeId) = certificate.node :=
  Prod.ext hpub.workflowId hpub.nodeId

theorem Publishes.not_holds (hs : Represents config s h) : ¬ h.Holds row.certificateDigest := by
  intro hholds
  obtain ⟨k, i, hi⟩ := Succession.holds_iff.mp hholds
  obtain ⟨_, hc, -, -⟩ := (hs.committed _ k _).mpr ⟨i, hi, rfl⟩
  exact hpub.fresh hc rfl

theorem Publishes.last (hs : Represents config s h)
    : (h.chain certificate.node).getLast? = old := by
  rw [← hpub.node_key, ← hs.pointer node hpub.node_mem, hpub.pointer]

theorem Publishes.open (hs : Represents config s h)
    : ∀ e ∈ (h.chain certificate.node).getLast?, e ∉ h.revoked := by
  intro e he
  rw [hpub.last hs] at he
  rw [← hs.revoked, hpub.current e he]
  simp

theorem Publishes.committed_version (hs : Represents config s h)
    : certificate.bindings.committedNodeVersion =
      toString ((h.chain certificate.node).length + 1) := by
  obtain ⟨_, hexp, hcomm⟩ := certificate.bindings.valid
  rw [← hpub.version, hs.version node hpub.node_mem, hpub.node_key] at hexp
  have hexp := PyInt.eq_of_int?_toString hexp
  -- the check of the updated row makes the version canonical
  have hupdated : ({ node with
      version := certificate.bindings.committedNodeVersion
      certificateDigest := some row.certificateDigest } : LogicalNodeRow) ∈ s'.logicalNodes := by
    refine (Table.mem_update? hpub.logicalNodes).mpr (.inr ⟨node, hpub.node_mem, ?_, rfl⟩)
    simp [hpub.workflowId, hpub.nodeId]
  obtain ⟨_, hm⟩ := PyInt.eq_toString_of_isCanonical (s'.logicalNodes.checked _ hupdated)
  dsimp only at hm
  rw [hm] at hcomm ⊢
  have hcomm := PyInt.eq_of_int?_toString hcomm
  congr 1
  omega

theorem Publishes.mem_logicalNodes (hr : r ∈ s'.logicalNodes)
    : (r ∈ s.logicalNodes ∧ (r.workflowId, r.nodeId) ≠ certificate.node) ∨
      ((r.workflowId, r.nodeId) = certificate.node ∧
        r.version = certificate.bindings.committedNodeVersion ∧
        r.certificateDigest = some row.certificateDigest) := by
  rcases (Table.mem_update? hpub.logicalNodes).mp hr with ⟨hr, hp⟩ | ⟨r', -, hp, rfl⟩
  . refine .inl ⟨hr, fun hkey => ?_⟩
    rw [CommitCertificate.node, Prod.mk.injEq] at hkey
    simp [hkey] at hp
  . simp only [Bool.and_eq_true, decide_eq_true_eq] at hp
    exact .inr ⟨Prod.ext hp.1 hp.2, rfl, rfl⟩

theorem Publishes.exists_logicalNode (hr : r ∈ s.logicalNodes)
    : ∃ r' ∈ s'.logicalNodes, (r'.workflowId, r'.nodeId) = (r.workflowId, r.nodeId) := by
  have hmem {r' : LogicalNodeRow} := Table.mem_update? (r := r') hpub.logicalNodes
  cases hp : decide (r.workflowId = certificate.subject.workflowId) &&
      decide (r.nodeId = certificate.subject.nodeId) with
  | true => exact ⟨_, hmem.mpr (.inr ⟨r, hr, hp, rfl⟩), rfl⟩
  | false => exact ⟨r, hmem.mpr (.inl ⟨hr, hp⟩), rfl⟩

theorem Publishes.latestDisposition (d : String)
    : s'.latestDisposition d =
      if d = row.certificateDigest then some .current
      else if some d = old then some .superseded
      else s.latestDisposition d :=
  latestIn_recordDisposition hpub.dispositions d

theorem Publishes.mem_supersessionEdges
    : e ∈ s'.supersessionEdges ↔
      e ∈ s.supersessionEdges ∨
        ∃ d ∈ old, e = ⟨auditId "replace" [d, row.certificateDigest], d, row.certificateDigest,
          certificate.decision.nonce⟩ := by
  rw [Table.mem_def, rows_of_recordDisposition hpub.dispositions, mem_append,
    Table.mem_def, mem_map]
  simp [eq_comm]

theorem Publishes.represents (hs : Represents authority.config s h)
    : Represents authority.config s'
        (h.publish certificate.node row.certificateDigest (hpub.not_holds hs) (hpub.open hs)) := by
  have hfresh := hpub.not_holds hs
  have hlast := hpub.last hs
  have hvers := hpub.committed_version hs
  have hlatest := hpub.latestDisposition
  have hnew : row.certificateDigest ∉ h.revoked := by
    intro hrevoked
    obtain ⟨k, hk⟩ := h.revoked_last _ hrevoked
    exact hfresh ⟨k, mem_of_getLast? hk⟩
  constructor
  case version =>
    intro r hr
    rcases hpub.mem_logicalNodes hr with ⟨hr, hkey⟩ | ⟨hkey, hr, -⟩
    . rw [Succession.chain_publish, if_neg hkey]
      exact hs.version r hr
    . rw [hkey, Succession.chain_publish_self, hr, hvers]
      simp
  case pointer =>
    intro r hr
    rcases hpub.mem_logicalNodes hr with ⟨hr, hkey⟩ | ⟨hkey, -, hr⟩
    . rw [Succession.chain_publish, if_neg hkey]
      exact hs.pointer r hr
    . rw [hkey, Succession.chain_publish_self, hr]
      simp
  case node =>
    intro k hk
    have hold : ∃ r ∈ s.logicalNodes, (r.workflowId, r.nodeId) = k := by
      by_cases hkey : k = certificate.node
      . exact ⟨node, hpub.node_mem, hpub.node_key.trans hkey.symm⟩
      . rw [Succession.chain_publish, if_neg hkey] at hk
        exact hs.node k hk
    obtain ⟨r, hr, rfl⟩ := hold
    exact hpub.exists_logicalNode hr
  case committed =>
    intro d k v
    simp only [hpub.decodedCertificates, mem_append, mem_singleton,
      Prod.mk.injEq, or_and_right, exists_or, hs.committed d k v, Succession.getElem?_publish]
    apply or_congr_right
    constructor
    . rintro ⟨c, ⟨rfl, rfl⟩, rfl, rfl⟩
      exact ⟨_, ⟨rfl, rfl, rfl⟩, hvers⟩
    . rintro ⟨_, ⟨rfl, rfl, rfl⟩, rfl⟩
      exact ⟨certificate, ⟨rfl, rfl⟩, rfl, hvers⟩
  case current =>
    intro d
    rw [hlatest, Succession.current_publish hnew, hlast, ← hs.current]
    split
    . next hd => simp [hd]
    . next hd =>
      split
      . next hold => simp [hd, ← hold]
      . next hold => simp [hd, Ne.symm hold]
  case superseded =>
    intro d
    rw [hlatest, Succession.superseded_publish, hlast, ← hs.superseded]
    split
    . next hd =>
      subst hd
      have hnone : s.latestDisposition row.certificateDigest ≠ some .superseded := by
        rw [Ne, hs.superseded]
        rintro ⟨new, k, i, hi, -⟩
        exact hfresh (Succession.holds_iff.mpr ⟨k, i, hi⟩)
      have hold : old ≠ some row.certificateDigest := by
        intro hold
        rw [hold] at hlast
        exact hfresh ⟨_, mem_of_getLast? hlast⟩
      simp [hnone, hold]
    . split
      . next hold => simp [← hold]
      . next hold => simp [Ne.symm hold]
  case revoked =>
    intro d
    rw [hlatest, Succession.revoked_publish]
    split
    . next hd => simp [hd, hnew]
    . split
      . next hold =>
        rw [← hs.revoked, hpub.current d hold.symm]
        simp
      . exact hs.revoked d
  case edges =>
    intro d new
    simp only [hpub.mem_supersessionEdges, or_and_right, exists_or, hs.edges,
      Succession.succeeds_publish, hlast]
    apply or_congr_right
    constructor
    . rintro ⟨_, ⟨d', hd', rfl⟩, rfl, rfl⟩
      exact ⟨hd', rfl⟩
    . rintro ⟨hd, rfl⟩
      exact ⟨_, ⟨d, hd, rfl⟩, rfl, rfl⟩
  case edges_distinct =>
    rw [rows_of_recordDisposition hpub.dispositions, pairwise_append]
    refine ⟨hs.edges_distinct, ?_, ?_⟩
    . cases old <;> simp
    . intro a ha b hb hne
      simp only [mem_map, Option.mem_toList] at hb
      obtain ⟨d, hd, rfl⟩ := hb
      have hsup := (hs.superseded d).mpr ⟨_, (hs.edges d _).mp ⟨a, ha, hne, rfl⟩⟩
      rw [hpub.current d hd] at hsup
      simp at hsup

end Publishes

theorem PublicationStep.represents (hstep : PublicationStep authority s s')
    (hs : Represents authority.config s h) : ∃ h', Represents authority.config s' h' := by
  cases hstep with
  | same hsame => exact ⟨h, hs.congr hsame⟩
  | revoked hcurr hins hsame => exact ⟨_, (hs.revoke hcurr hins).congr hsame⟩
  | published hpub => exact ⟨_, hpub.represents hs⟩

theorem provision_cases {contexts : List CommitContext} (hprov : provision config contexts = .ok s)
    : Integrity config s ∧
      s = { Store.empty with logicalNodes := s.logicalNodes, candidates := s.candidates } := by
  simp only [provision, bind_eq_ok, pure_inj] at hprov
  obtain ⟨_, hins, snap, hvalidate, rfl⟩ := hprov
  exact ⟨(validateSemanticIntegrity_isOk_iff config _).mp ⟨snap, hvalidate⟩,
    insertContext_foldlM hins⟩

theorem provision_represents
    (hprov : provision config contexts = .ok s) : Represents config s .empty := by
  obtain ⟨hintegrity, heq⟩ := provision_cases hprov
  have hcerts : decodedCertificates config s = [] := by
    rw [heq]
    rfl
  have hlatest (d : String) : s.latestDisposition d = none := by
    rw [heq]
    rfl
  have hedges : s.supersessionEdges.rows = [] := by
    rw [heq]
    rfl
  have hnode : ∀ r ∈ s.logicalNodes, r.version = "0" ∧ r.certificateDigest = none := by
    intro r hr
    have hvalid := hintegrity.logicalNodes.rows r hr
    rw [hcerts] at hvalid
    simp only [validateLogicalNode, bind_eq_ok, exists_unit, ensure_eq_ok,
      decide_eq_true_eq] at hvalid
    obtain ⟨hvers, hpointer⟩ := hvalid
    cases hdig : r.certificateDigest with
    | some _ => simp [hdig] at hpointer
    | none => simpa [hdig] using hvers
  constructor <;> simp only [Succession.empty, hlatest, hcerts, Succession.Current,
    Succession.Superseded, Succession.Succeeds, Table.mem_def, hedges]
  case version => exact fun r hr => (hnode r hr).1
  case pointer => exact fun r hr => (hnode r hr).2
  all_goals simp

theorem Reachable.represents (hs : Reachable authority s)
    : ∃ h, Represents authority.config s h := by
  obtain ⟨_, _, hprov, hrun⟩ := hs
  refine Transition.Run.invariant (p := fun s => ∃ h, Represents authority.config s h)
    ?_ hrun ⟨_, provision_represents hprov⟩
  rintro s op s' - hstep ⟨h, hs⟩
  exact (step_publication hstep).represents hs

theorem Reachable.ledger (hs : Reachable authority s) : Ledger authority.config s := by
  obtain ⟨_, _, hprov, hrun⟩ := hs
  exact hrun.ledger (provision_cases hprov).1.ledger

def Store.Commits (s : Store) (workflowId nodeId digest version : String) : Prop :=
  ∃ r ∈ s.certificates, r.workflowId = workflowId ∧ r.nodeId = nodeId ∧
    r.certificateDigest = digest ∧ ∃ c, decodeCertificate r.certificateJson = .ok c ∧
      c.bindings.committedNodeVersion = version

theorem Ledger.commits_iff (hs : Ledger config s)
    : s.Commits wf nodeId digest version ↔
      ∃ c, (digest, c) ∈ decodedCertificates config s ∧ c.node = (wf, nodeId) ∧
        c.bindings.committedNodeVersion = version := by
  constructor
  . rintro ⟨r, hr, rfl, rfl, rfl, c, hdec, rfl⟩
    obtain ⟨⟨digest, c'⟩, hvalidate⟩ := hs.certificates r hr
    obtain ⟨-, hholds, rfl⟩ := validateCertificate_eq_ok.mp hvalidate
    rw [hholds.decoded, Except.ok.injEq] at hdec
    subst hdec
    exact ⟨c', mem_decodedCertificates.mpr ⟨r, hr, hvalidate⟩,
      Prod.ext hholds.workflowId hholds.nodeId, rfl⟩
  . rintro ⟨c, hc, hnode, rfl⟩
    obtain ⟨r, hr, hvalidate⟩ := mem_decodedCertificates.mp hc
    obtain ⟨-, hholds, rfl⟩ := validateCertificate_eq_ok.mp hvalidate
    rw [CommitCertificate.node, Prod.mk.injEq] at hnode
    exact ⟨r, hr, hholds.workflowId.symm.trans hnode.1, hholds.nodeId.symm.trans hnode.2, rfl, c,
      hholds.decoded, rfl⟩

structure NodeHistory (s : Store) (workflowId nodeId : String) (chain : List String) : Prop where
  distinct : chain.Nodup
  versions : ∀ digest version, s.Commits workflowId nodeId digest version ↔
    ∃ i, chain[i]? = some digest ∧ version = toString (i + 1)
  unknown : s.logicalNode? workflowId nodeId = none → chain = []
  version : ∀ r, s.logicalNode? workflowId nodeId = some r → r.version = toString chain.length
  pointer : ∀ r, s.logicalNode? workflowId nodeId = some r → r.certificateDigest = chain.getLast?
  initial : ∀ r, s.logicalNode? workflowId nodeId = some r →
    (r.certificateDigest = none ↔ r.version = "0")
  superseded : ∀ i old new, chain[i]? = some old → chain[i + 1]? = some new →
    s.latestDisposition old = some .superseded ∧
      (s.supersessionEdges.rows.filter (·.oldDigest = old)).map (·.newDigest) = [new]
  last : ∀ digest ∈ chain.getLast?, s.latestDisposition digest = some .current ∨
    s.latestDisposition digest = some .revoked

theorem Represents.nodeHistory (hs : Represents config s h) (hled : Ledger config s)
    (workflowId nodeId : String)
    : NodeHistory s workflowId nodeId (h.chain (workflowId, nodeId)) := by
  have hnode {r : LogicalNodeRow} (hr : s.logicalNode? workflowId nodeId = some r) :
      r ∈ s.logicalNodes ∧ (r.workflowId, r.nodeId) = (workflowId, nodeId) := by
    obtain ⟨hmem, hp⟩ := Table.mem_of_find? hr
    simp only [Bool.and_eq_true, decide_eq_true_eq] at hp
    exact ⟨hmem, Prod.ext hp.1 hp.2⟩
  have hvers {r : LogicalNodeRow} (hr : s.logicalNode? workflowId nodeId = some r) :
      r.version = toString (h.chain (workflowId, nodeId)).length :=
    (hnode hr).2 ▸ hs.version r (hnode hr).1
  have hpointer {r : LogicalNodeRow} (hr : s.logicalNode? workflowId nodeId = some r) :
      r.certificateDigest = (h.chain (workflowId, nodeId)).getLast? :=
    (hnode hr).2 ▸ hs.pointer r (hnode hr).1
  constructor
  case distinct =>
    rw [nodup_iff_getElem?_ne_getElem?]
    intro i j hij hlt heq
    obtain ⟨d, hd⟩ : ∃ d, (h.chain (workflowId, nodeId))[j]? = some d :=
      ⟨_, getElem?_eq_getElem hlt⟩
    have := (h.distinct (heq.trans hd) hd).2
    omega
  case versions =>
    intro digest version
    rw [hled.commits_iff]
    exact hs.committed digest (workflowId, nodeId) version
  case unknown =>
    intro hnone
    by_contra hchain
    obtain ⟨r, hr, hkey⟩ := hs.node _ hchain
    have := Table.find?_eq_none.mp hnone r hr
    rw [Prod.mk.injEq] at hkey
    simp [hkey] at this
  case version => exact fun r hr => hvers hr
  case pointer => exact fun r hr => hpointer hr
  case initial =>
    intro r hr
    rw [hvers hr, hpointer hr, getLast?_eq_none_iff]
    constructor
    . intro hnil
      rw [hnil]
      rfl
    . intro hzero
      exact eq_nil_of_length_eq_zero (PyInt.toString_injective hzero)
  case superseded =>
    intro i old new hold hnew
    have hsucceeds : h.Succeeds old new := ⟨_, i, hold, hnew⟩
    refine ⟨(hs.superseded old).mpr ⟨new, hsucceeds⟩, ?_⟩
    obtain ⟨_, he, rfl, rfl⟩ := (hs.edges old new).mpr hsucceeds
    rw [filter_oldDigest hs.edges_distinct he, map_singleton]
  case last =>
    intro digest hlast
    rw [hs.current, hs.revoked]
    by_cases hrevoked : digest ∈ h.revoked
    . exact .inr hrevoked
    . exact .inl ⟨hrevoked, _, hlast⟩

theorem single_authoritative_history (hs : Reachable authority s) (workflowId nodeId : String)
    : ∃ chain, NodeHistory s workflowId nodeId chain := by
  obtain ⟨_, hrepresents⟩ := hs.represents
  exact ⟨_, hrepresents.nodeHistory hs.ledger workflowId nodeId⟩

end Apcc

namespace Apcc.Sample

theorem single_authoritative_history_superseded
    : ∃ s old new, Reachable authority s ∧ NodeHistory s "workflow" "node" [old, new] ∧
        s.latestDisposition old = some .superseded ∧
        s.logicalNode? "workflow" "node" = some ⟨"workflow", "node", "2", some new⟩ := by
  obtain ⟨s, digest, hreach, hnode⟩ := exists_superseded
  obtain ⟨chain, hchain⟩ := single_authoritative_history hreach "workflow" "node"
  have hlen : 2 = chain.length := PyInt.toString_injective (hchain.version _ hnode)
  obtain ⟨old, new, rfl⟩ := List.length_eq_two.mp hlen.symm
  obtain rfl : digest = new := Option.some.inj (hchain.pointer _ hnode)
  exact ⟨s, old, digest, hreach, hchain, (hchain.superseded 0 old digest rfl rfl).1, hnode⟩

end Apcc.Sample
