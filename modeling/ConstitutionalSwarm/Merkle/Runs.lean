import ConstitutionalSwarm.Data.PyJsonSorted
import ConstitutionalSwarm.Merkle.Indexes

namespace Merkle

open Raising List

theorem wellFormed_toCanonicalDict (fields : NodeFields)
    : PyJson.WellFormed true (.dict fields.toCanonicalDict) := by
  have hpars : ∀ ps : List String, PyJson.WellFormedElems true (ps.map .str) := by
    intro ps
    induction ps with
    | nil => trivial
    | cons p ps ih => exact ⟨trivial, ih⟩
  refine ⟨by simp [NodeFields.toCanonicalDict], ?_⟩
  exact ⟨trivial, trivial, trivial, hpars _, trivial, trivial, fields.metadata.wellFormed, trivial⟩

theorem sortKeysElems_map_str (ps : List String)
    : PyJson.sortKeysElems (ps.map .str) = ps.map .str := by
  induction ps with
  | nil => rfl
  | cons p ps ih => rw [map_cons, PyJson.sortKeysElems, ih, PyJson.sortKeys]

namespace Replica

variable {r r' : Replica} {node : DAGNode} {c : String}

theorem nodes_store (r : Replica) (node : DAGNode)
    : (r.store node).nodes = if node.cid ∈ r.cids then r.nodes else r.nodes ++ [node] := by
  split
  . next h => rw [store, if_pos h]
  . next h =>
    obtain ⟨_, _, hframe⟩ := store_frame h
    rw [hframe]
    exact nodes_link r node

theorem nodes_le_store (r : Replica) (node : DAGNode) : r.nodes <+: (r.store node).nodes := by
  rw [nodes_store]
  split
  . exact prefix_refl _
  . exact prefix_append _ _

theorem postInit_eq_ok (h : fields.postInit = .ok node)
    : node.toNodeFields = fields := by
  unfold NodeFields.postInit at h
  split at h
  . split at h
    . cases h
      rfl
    . cases h
  . cases h

theorem mem_frontierSnapshot : c ∈ r.frontierSnapshot ↔ c ∈ r.heads := by
  simp [frontierSnapshot]

theorem Indexed.complete_mono (h : Indexed r') (hle : r.nodes <+: r'.nodes)
    (hc : Dag.Complete r.parents c) : Dag.Complete r'.parents c := by
  apply hc.mono
  intro d ps hps
  obtain ⟨n, hn, rfl⟩ := Option.map_eq_some_iff.mp hps
  have hcid : n.cid = d := by simpa using find?_some hn
  rw [← hcid]
  exact parents_of_mem h.linked.nodup (hle.subset (mem_of_find?_eq_some hn))

def HasCycle (r : Replica) : Prop :=
  ∃ c, Relation.TransGen (Dag.IsParent r.parents) c c

theorem finite_parents (r : Replica) : {c | (r.parents c).isSome}.Finite := by
  apply (finite_toSet r.cids).subset
  intro c hc
  exact parents_isSome.mp hc

theorem Indexed.isParent_iff (h : Indexed r)
    : Dag.IsParent r.parents p c ↔ ∃ n ∈ r.nodes, n.cid = c ∧ p ∈ n.parentCids := by
  rw [← mem_parentsOf h.linked.nodup, parentsOf]
  cases hpars : r.parents c with
  | none => simp [Dag.IsParent, hpars]
  | some ps => simp [Dag.IsParent, hpars]

theorem Indexed.mem_heads_iff (h : Indexed r)
    : c ∈ r.heads ↔ c ∈ r.cids ∧ ∀ d, ¬Dag.IsParent r.parents c d := by
  rw [h.heads c]
  simp only [h.isParent_iff, not_exists, not_and]
  exact and_congr_right fun _ => ⟨fun hnames d n hn _ => hnames n hn, fun hnames n hn =>
    hnames n.cid n hn rfl⟩

theorem Indexed.exists_head (h : Indexed r) (hc : c ∈ r.cids)
    : (∃ d ∈ r.heads, Relation.ReflTransGen (Dag.IsParent r.parents) c d) ∨ r.HasCycle := by
  rcases Dag.exists_head (finite_parents r) (parents_isSome.mpr hc)
    with ⟨d, hd, hcd, hlast⟩ | hcycle
  . exact .inl ⟨d, h.mem_heads_iff.mpr ⟨parents_isSome.mp hd, hlast⟩, hcd⟩
  . exact .inr hcycle

theorem Indexed.isParent_mono (h : Indexed r) (h' : Indexed r') (hle : r.nodes <+: r'.nodes)
    (hp : Dag.IsParent r.parents p c) : Dag.IsParent r'.parents p c := by
  rw [h.isParent_iff] at hp
  obtain ⟨n, hn, hcid, hparent⟩ := hp
  exact h'.isParent_iff.mpr ⟨n, hle.subset hn, hcid, hparent⟩

theorem Indexed.hasCycle_mono (h : Indexed r) (h' : Indexed r') (hle : r.nodes <+: r'.nodes)
    (hcycle : r.HasCycle) : r'.HasCycle := by
  obtain ⟨c, hc⟩ := hcycle
  exact ⟨c, hc.lift id fun _ _ hp => h.isParent_mono h' hle hp⟩

theorem Indexed.transGen_append (h : Indexed r) (hpars : node.parentCids = r.frontierSnapshot)
    (hnew : node.cid ∉ r.cids) (hc : c ∈ r.cids)
    : Relation.TransGen (Dag.IsParent (r.store node).parents) c node.cid ∨
      (r.store node).HasCycle := by
  rcases h.exists_head hc with ⟨d, hd, hcd⟩ | hcycle
  . left
    have hbelow : Relation.ReflTransGen (Dag.IsParent (r.store node).parents) c d :=
      hcd.lift id fun _ _ hp => h.isParent_mono (h.store node) (nodes_le_store r node) hp
    apply Relation.TransGen.tail' hbelow
    rw [(h.store node).isParent_iff]
    refine ⟨node, ?_, rfl, ?_⟩
    . rw [nodes_store, if_neg hnew]
      exact mem_append_right _ (mem_singleton_self node)
    . rw [hpars]
      exact mem_frontierSnapshot.mpr hd
  . exact .inr (h.hasCycle_mono (h.store node) (nodes_le_store r node) hcycle)

end Replica

variable [Apcc.Platform] [Interpreter]

omit [Apcc.Platform] in
theorem parentCids_eq [JsonText.LawfulFloats] {m n : NodeFields}
    (h : canonicalBytes m.toCanonicalDict = canonicalBytes n.toCanonicalDict)
    : m.parentCids = n.parentCids := by
  have hlook := PyJson.lookup_of_dumps_eq (JsonText.reads true) (wellFormed_toCanonicalDict m)
    (wellFormed_toCanonicalDict n) (String.encodeUTF8_injective h) "parent_cids"
  have hfield : ∀ fields : NodeFields, fields.toCanonicalDict.lookup "parent_cids" =
      some (.list (fields.parentCids.map .str)) := fun _ => rfl
  simp only [hfield, Option.map_some, PyJson.sortKeys, sortKeysElems_map_str, Option.some.injEq,
    PyValue.list.injEq] at hlook
  exact map_injective_iff.mpr (fun _ _ h => PyValue.str.inj h) hlook

def Collides (m n : NodeFields) : Prop :=
  m.cid = n.cid ∧ canonicalBytes m.toCanonicalDict ≠ canonicalBytes n.toCanonicalDict

namespace Replica

variable {r r' : Replica} {node : DAGNode}

inductive Step : Replica → Replica → Prop
  | append {r r' : Replica} {node : DAGNode} {payload payloadType constitutionalHash : String}
      {bodesPassed : Bool} {metadata : JsonObject} {timestamp : PyFloat}
      (happend : r.append payload payloadType bodesPassed constitutionalHash metadata timestamp =
        .ok (node, r')) : Step r r'
  | mergeNodes {r : Replica} {nodes : List DAGNode}
      (hverified : r.rejectUnverified = true ∨ ∀ n ∈ nodes, n.verifyCid)
      : Step r (r.mergeNodes nodes).1
  | merge {r other : Replica}
      (hverified : r.rejectUnverified = true ∨ ∀ n ∈ other.nodes, n.verifyCid)
      : Step r (r.merge other).1
  | mergeVerifiedNodes {r : Replica} {nodes : List DAGNode}
      (hverified : ∀ n ∈ nodes, n.verifyCid) : Step r (r.mergeVerifiedNodes nodes).1

inductive Reached : Replica → Prop
  | new (agentId : String) (rejectUnverified : Bool) : Reached (new agentId rejectUnverified)
  | step {r r' : Replica} (h : Reached r) (hstep : Step r r') : Reached r'

structure Sound (r : Replica) : Prop extends Indexed r where
  verified : ∀ n ∈ r.nodes, n.verifyCid

theorem Sound.store (h : Sound r) (hnode : node.verifyCid) : Sound (r.store node) := by
  refine ⟨h.toIndexed.store node, ?_⟩
  intro n hn
  rw [nodes_store] at hn
  split at hn
  . exact h.verified n hn
  . rcases mem_append.mp hn with hn | hn
    . exact h.verified n hn
    . rw [mem_singleton.mp hn]
      exact hnode

variable {verify : Bool} {s : Replica × ℕ} {c : String}

theorem Sound.receive (h : Sound s.1) (hnode : verify ∨ node.verifyCid)
    : Sound (receive verify s node).1 := by
  unfold Replica.receive
  split
  . exact h
  . split
    . exact h
    . next hcheck =>
      apply h.store
      rcases hnode with rfl | hnode
      . simpa using hcheck
      . exact hnode

theorem Sound.foldl_receive {nodes : List DAGNode} (h : Sound s.1)
    (hnodes : verify ∨ ∀ n ∈ nodes, n.verifyCid)
    : Sound (nodes.foldl (Replica.receive verify) s).1 := by
  induction nodes generalizing s with
  | nil => exact h
  | cons n nodes ih =>
    rw [foldl_cons]
    apply ih
    . apply h.receive
      exact hnodes.imp_right fun hall => hall n mem_cons_self
    . exact hnodes.imp_right fun hall m hm => hall m (mem_cons_of_mem n hm)

theorem verifyCid_withCid (fields : NodeFields) : fields.withCid.verifyCid := by
  simp [NodeFields.verifyCid, NodeFields.withCid, NodeFields.computeCid, NodeFields.toCanonicalDict]

theorem append_eq_ok
    (h : r.append payload payloadType bodesPassed constitutionalHash metadata ts =
      .ok (node, r'))
    : node.parentCids = r.frontierSnapshot ∧ node.verifyCid ∧ r' = r.store node := by
  simp only [append, bind_eq_ok, pure_inj, Prod.mk.injEq] at h
  obtain ⟨_, -, _, hinit, rfl, rfl⟩ := h
  have hflds := postInit_eq_ok hinit
  refine ⟨?_, ?_, rfl⟩
  . rw [hflds]
    rfl
  . rw [hflds]
    exact verifyCid_withCid _

theorem Sound.step (h : Sound r) (hstep : Step r r') : Sound r' := by
  cases hstep with
  | append happ =>
    obtain ⟨-, hver, rfl⟩ := append_eq_ok happ
    exact h.store hver
  | mergeNodes hver => exact h.foldl_receive hver
  | merge hver => exact h.foldl_receive hver
  | mergeVerifiedNodes hver => exact h.foldl_receive (.inr hver)

theorem Reached.sound (h : Reached r) : Sound r := by
  induction h with
  | new agentId rejectUnverified =>
    refine ⟨Indexed.new agentId rejectUnverified, ?_⟩
    intro n hn
    cases hn
  | step h hstep ih => exact ih.step hstep

theorem nodes_le_receive (verify : Bool) (s : Replica × ℕ) (node : DAGNode)
    : s.1.nodes <+: (receive verify s node).1.nodes := by
  unfold receive
  split
  . exact prefix_refl _
  . split
    . exact prefix_refl _
    . exact nodes_le_store s.1 node

theorem nodes_le_foldl_receive (verify : Bool) (nodes : List DAGNode) (s : Replica × ℕ)
    : s.1.nodes <+: (nodes.foldl (receive verify) s).1.nodes := by
  induction nodes generalizing s with
  | nil => exact prefix_refl _
  | cons n nodes ih => exact (nodes_le_receive verify s n).trans (ih _)

theorem mem_nodes_receive (hn : n ∈ (receive verify s node).1.nodes)
    : n ∈ s.1.nodes ∨ n = node := by
  unfold receive at hn
  split at hn
  . exact .inl hn
  . split at hn
    . exact .inl hn
    . rw [nodes_store] at hn
      split at hn
      . exact .inl hn
      . simpa using hn

theorem mem_nodes_foldl_receive {nodes : List DAGNode} {n : DAGNode}
    (hn : n ∈ (nodes.foldl (receive verify) s).1.nodes) : n ∈ s.1.nodes ∨ n ∈ nodes := by
  induction nodes generalizing s with
  | nil => exact .inl hn
  | cons m nodes ih =>
    rcases ih hn with hn | hn
    . rcases mem_nodes_receive hn with hn | rfl
      . exact .inl hn
      . exact .inr mem_cons_self
    . exact .inr (mem_cons_of_mem m hn)

theorem length_nodes_receive_le (verify : Bool) (s : Replica × ℕ) (node : DAGNode)
    : (receive verify s node).1.nodes.length ≤ s.1.nodes.length + 1 := by
  unfold receive
  split
  . omega
  . split
    . omega
    . rw [nodes_store]
      split
      . omega
      . rw [length_append, length_singleton]

theorem length_nodes_foldl_receive_le (verify : Bool) (nodes : List DAGNode) (s : Replica × ℕ)
    : (nodes.foldl (receive verify) s).1.nodes.length ≤ s.1.nodes.length + nodes.length := by
  induction nodes generalizing s with
  | nil => exact Nat.le_refl _
  | cons n nodes ih =>
    have hrest := ih (receive verify s n)
    have hfirst := length_nodes_receive_le verify s n
    rw [foldl_cons, length_cons]
    omega

theorem Step.nodes_le (h : Step r r') : r.nodes <+: r'.nodes := by
  cases h with
  | append happ =>
    obtain ⟨-, -, rfl⟩ := append_eq_ok happ
    exact nodes_le_store _ _
  | mergeNodes hver => exact nodes_le_foldl_receive _ _ (r, 0)
  | merge hver => exact nodes_le_foldl_receive _ _ (r, 0)
  | mergeVerifiedNodes hver => exact nodes_le_foldl_receive _ _ (r, 0)

omit [Apcc.Platform] in
theorem Indexed.heads_append [JsonText.LawfulFloats] (h : Indexed r)
    (hpars : node.parentCids = r.frontierSnapshot)
    : (r.store node).heads = {node.cid} ∨
      (∃ m ∈ r.nodes, Collides m.toNodeFields node.toNodeFields) ∨ (r.store node).HasCycle := by
  by_cases hnew : node.cid ∈ r.cids
  . obtain ⟨m, hm, hcid⟩ := mem_map.mp hnew
    by_cases hcontent : canonicalBytes m.toCanonicalDict = canonicalBytes node.toCanonicalDict
    -- the node is stored, and the heads are its parents: there are none
    . rcases h.exists_head hnew with ⟨d, hd, -⟩ | hcycle
      . have hnamed : d ∈ m.parentCids := by
          rw [parentCids_eq hcontent, hpars]
          exact mem_frontierSnapshot.mpr hd
        exact absurd hnamed (((h.heads d).mp hd).2 m hm)
      . exact .inr (.inr (h.hasCycle_mono (h.store node) (nodes_le_store r node) hcycle))
    . exact .inr (.inl ⟨m, hm, hcid, hcontent⟩)
  . have hnodes : (r.store node).nodes = r.nodes ++ [node] := by rw [nodes_store, if_neg hnew]
    by_cases hnamed : ∃ n ∈ r.nodes ++ [node], node.cid ∈ n.parentCids
    . right
      right
      obtain ⟨n, hn, hparent⟩ := hnamed
      have hedge : Dag.IsParent (r.store node).parents node.cid n.cid := by
        rw [(h.store node).isParent_iff, hnodes]
        exact ⟨n, hn, rfl, hparent⟩
      rcases mem_append.mp hn with hn | hn
      . rcases h.transGen_append hpars hnew (mem_map_of_mem hn) with hbelow | hcycle
        . exact ⟨node.cid, .head hedge hbelow⟩
        . exact hcycle
      . rw [mem_singleton.mp hn] at hedge
        exact ⟨node.cid, .single hedge⟩
    . left
      ext c
      rw [(h.store node).heads c, Finset.mem_singleton, cids, hnodes, map_append, mem_append]
      constructor
      . rintro ⟨hc, hlast⟩
        rcases hc with hc | hc
        -- an old node is a head no more
        . exfalso
          by_cases hhead : c ∈ r.heads
          . apply hlast node (mem_append_right _ (mem_singleton_self node))
            rw [hpars]
            exact mem_frontierSnapshot.mpr hhead
          . rw [h.heads c] at hhead
            apply hhead
            exact ⟨hc, fun n hn => hlast n (mem_append_left _ hn)⟩
        . exact mem_singleton.mp hc
      . rintro rfl
        refine ⟨.inr (mem_singleton_self _), ?_⟩
        intro n hn hparent
        exact hnamed ⟨n, hn, hparent⟩

/--
The indexes of every state that appends and merges of verified nodes reach are exact, and an append
joins the heads to one. The two exceptions are those that SHA-256 rules out: nodes whose CIDs form a
cycle, and two contents with one CID.
-/
theorem indexes_exact [JsonText.LawfulFloats] (h : Reached r)
    : (∀ c, c ∈ r.heads ↔ c ∈ r.cids ∧ ∀ n ∈ r.nodes, c ∉ n.parentCids) ∧
      (∀ c, c ∈ r.causallyClosed ↔
        Dag.Complete r.parents c ∧ ¬Dag.CyclicAbove r.parents c) ∧
      (∀ n ∈ r.nodes, r.missingParentCount n.cid = n.parentCids.countP (· ∉ r.causallyClosed)) ∧
      ∀ payload payloadType bodesPassed constitutionalHash metadata timestamp node r',
        r.append payload payloadType bodesPassed constitutionalHash metadata timestamp =
          .ok (node, r') →
        (∀ p, p ∈ node.parentCids ↔ p ∈ r.heads) ∧
        (r'.heads = {node.cid} ∨ (∃ m ∈ r.nodes, Collides m.toNodeFields node.toNodeFields) ∨
          r'.HasCycle) := by
  have hidx := h.sound.toIndexed
  refine ⟨hidx.heads, ?_, ?_, ?_⟩
  . intro c
    rw [hidx.mem_causallyClosed, Dag.closed_iff (finite_parents r)]
  . intro n hn
    have hcount := hidx.counts.count_eq n.cid (mem_map_of_mem hn)
    rw [parentsOf, parents_of_mem hidx.linked.nodup hn] at hcount
    exact hcount
  . intro payload payloadType bodesPassed constitutionalHash metadata timestamp node r' happ
    obtain ⟨hpars, -, rfl⟩ := append_eq_ok happ
    constructor
    . intro p
      rw [hpars]
      exact mem_frontierSnapshot
    . exact hidx.heads_append hpars

end Replica

end Merkle

namespace Merkle.Sample

open scoped Apcc.Sample JsonText.Sample

theorem sortKeys_toCanonicalDict (fields : NodeFields)
    : PyJson.sortKeys (.dict fields.toCanonicalDict) =
      .dict [("agent_id", .str fields.agentId), ("bodes_passed", .bool fields.bodesPassed),
        ("constitutional_hash", .str fields.constitutionalHash),
        ("metadata", PyJson.sortKeys (.dict fields.metadata.fields)),
        ("parent_cids", .list (fields.parentCids.map .str)), ("payload", .str fields.payload),
        ("payload_type", .str fields.payloadType)] := by
  simp [NodeFields.toCanonicalDict, PyJson.sortKeys, PyJson.sortKeysFields, sortKeysElems_map_str,
    Smallest.sortBy]

def node (timestamp : PyFloat) (parentCids : List String) (hnodup : parentCids.Nodup)
    : DAGNode where
  toNodeFields := NodeFields.withCid
    ⟨"", "agent", "payload", "artifact", parentCids, timestamp, false, "", .empty⟩
  nodup := hnodup
  normal := rfl

def text (parentCids : List String) : String :=
  PyJson.dumps ⟨true, false⟩ Interpreter.floatRepr (.dict [("agent_id", .str "agent"),
    ("bodes_passed", .bool false), ("constitutional_hash", .str ""), ("metadata", .dict []),
    ("parent_cids", .list (parentCids.map .str)), ("payload", .str "payload"),
    ("payload_type", .str "artifact")])

theorem canonicalBytes_node (hnodup : parentCids.Nodup)
    : canonicalBytes (node timestamp parentCids hnodup).toCanonicalDict =
      (text parentCids).encodeUTF8 := by
  rw [canonicalBytes, sortKeys_toCanonicalDict, show (node timestamp parentCids hnodup).metadata =
    JsonObject.empty from rfl]
  simp only [JsonObject.empty, PyJson.sortKeys, PyJson.sortKeysFields, Smallest.sortBy,
    List.insertionSort_nil]
  rfl

theorem verifyCid_node (hnodup : parentCids.Nodup)
    : (node timestamp parentCids hnodup).verifyCid :=
  Replica.verifyCid_withCid _

theorem cid_node (hnodup : parentCids.Nodup)
    : (node timestamp parentCids hnodup).cid = sha256Hex (text parentCids).encodeUTF8 := by
  rw [← canonicalBytes_node hnodup]
  exact of_decide_eq_true (verifyCid_node hnodup)

def parent (timestamp : PyFloat) : DAGNode :=
  node timestamp [] List.nodup_nil

def parentCid : String :=
  "000000000000000000000000000000000000000000000000000000000000008f"

def child : DAGNode :=
  node (.finite 0) [parentCid] (List.nodup_singleton _)

def childCid : String :=
  "00000000000000000000000000000000000000000000003000000000000000d1"

theorem sha256_text_nil
    : Apcc.Platform.sha256 (text []).encodeUTF8 = List.replicate 31 0 ++ [143] := by
  decide +kernel

theorem sha256_text_parent
    : Apcc.Platform.sha256 (text [parentCid]).encodeUTF8 =
      List.replicate 23 0 ++ 48 :: List.replicate 7 0 ++ [209] := by
  decide +kernel

theorem cid_parent (timestamp : PyFloat) : (parent timestamp).cid = parentCid := by
  rw [parent, cid_node, sha256Hex, sha256_text_nil]
  decide

theorem cid_child : child.cid = childCid := by
  rw [child, cid_node, sha256Hex, sha256_text_parent]
  decide

theorem sha256_ne (timestamp : PyFloat)
    : Apcc.Platform.sha256 (canonicalBytes (parent timestamp).toCanonicalDict) ≠
      Apcc.Platform.sha256 (canonicalBytes child.toCanonicalDict) := by
  rw [parent, child, canonicalBytes_node, canonicalBytes_node, sha256_text_nil, sha256_text_parent]
  decide

def replica : Replica :=
  ((Replica.new "agent" true).mergeVerifiedNodes [child, parent (.finite 0)]).1

-- stated of any two nodes, since the kernel would compute the CIDs of fixed ones
theorem nodes_mergeVerifiedNodes_pair {a b : DAGNode} (hne : b.cid ≠ a.cid)
    : ((Replica.new "agent" true).mergeVerifiedNodes [a, b]).1.nodes = [a, b] := by
  simp [Replica.mergeVerifiedNodes, Replica.receive, Replica.cids, Replica.nodes_store, Replica.new,
    hne]

theorem nodes_replica : replica.nodes = [child, parent (.finite 0)] := by
  apply nodes_mergeVerifiedNodes_pair
  rw [cid_parent, cid_child]
  decide

theorem cids_replica : replica.cids = [childCid, parentCid] := by
  rw [Replica.cids, nodes_replica, List.map_cons, List.map_singleton, cid_child, cid_parent]

theorem reached_replica : replica.Reached := by
  apply Replica.Reached.step (.new "agent" true)
  apply Replica.Step.mergeVerifiedNodes
  simp only [List.forall_mem_cons, List.not_mem_nil, false_implies, implies_true, and_true]
  exact ⟨verifyCid_node _, verifyCid_node _⟩

theorem isParent_replica
    : Dag.IsParent replica.parents p c ↔ p = parentCid ∧ c = childCid := by
  rw [reached_replica.sound.isParent_iff, nodes_replica]
  constructor
  . rintro ⟨n, hn, rfl, hp⟩
    rcases List.mem_pair.mp hn with rfl | rfl
    . exact ⟨List.mem_singleton.mp hp, cid_child⟩
    . exact absurd hp List.not_mem_nil
  . rintro ⟨rfl, rfl⟩
    exact ⟨child, List.mem_cons_self, cid_child, List.mem_singleton_self _⟩

theorem not_hasCycle_replica : ¬replica.HasCycle := by
  rintro ⟨c, hcycle⟩
  obtain ⟨_, hfirst, -⟩ := Relation.TransGen.head'_iff.mp hcycle
  obtain ⟨_, -, hlast⟩ := Relation.TransGen.tail'_iff.mp hcycle
  have hne : parentCid ≠ childCid := by decide
  exact hne ((isParent_replica.mp hfirst).1.symm.trans (isParent_replica.mp hlast).2)

theorem complete_replica (hc : c ∈ replica.cids) : Dag.Complete replica.parents c := by
  intro a ha
  rw [Replica.parents_isSome]
  rcases ha.cases_head with rfl | ⟨_, hparent, -⟩
  . exact hc
  . rw [(isParent_replica.mp hparent).1, cids_replica]
    simp

theorem indexes_exact_replica
    : (∀ c, c ∈ replica.heads ↔ c = childCid) ∧
      (∀ c, c ∈ replica.causallyClosed ↔ c ∈ replica.cids) ∧
      replica.missingParentCount childCid = 0 := by
  obtain ⟨hheads, hclosed, hcounts, -⟩ := Replica.indexes_exact reached_replica
  have hall : ∀ c, c ∈ replica.causallyClosed ↔ c ∈ replica.cids := by
    intro c
    rw [hclosed]
    constructor
    . exact fun h => Replica.parents_isSome.mp (h.1 c .refl)
    . exact fun hc => ⟨complete_replica hc, fun ⟨a, _, hcycle⟩ => not_hasCycle_replica ⟨a, hcycle⟩⟩
  have hpars : child.parentCids = [parentCid] ∧ (parent (.finite 0)).parentCids = [] := ⟨rfl, rfl⟩
  refine ⟨fun c => ?_, hall, ?_⟩
  . rw [hheads, cids_replica, nodes_replica]
    simp only [List.mem_cons, List.not_mem_nil, or_false, forall_eq_or_imp, forall_eq, hpars.1,
      hpars.2, not_false_eq_true, and_true]
    constructor
    . exact fun ⟨hc, hnot⟩ => hc.resolve_right hnot
    . rintro rfl
      exact ⟨.inl rfl, by decide⟩
  . rw [← cid_child, hcounts child (by simp [nodes_replica]), hpars.1]
    simp [hall, cids_replica]

end Merkle.Sample
