import ConstitutionalSwarm.Gcb.Control

namespace Gcb

open Raising List
open Relation (ReflTransGen)

section Walks

variable (topology : List (String × List String)) (roots : List String)

def markPredecessors (ancestors pending predecessors : List String) : List String × List String :=
  predecessors.foldl (fun (ancestors, pending) predecessor =>
    if predecessor ∈ ancestors then (ancestors, pending)
    else (predecessor :: ancestors, predecessor :: pending)) (ancestors, pending)

-- A node is pushed once, so that the loop ends within as many rounds as there are nodes.
def ancestorsOf : Nat → List String → List String → Py (List String)
  | 0, ancestors, _ => .ok ancestors
  | _ + 1, ancestors, [] => .ok ancestors
  | rounds + 1, ancestors, current :: pending =>
    match topology.lookup current with
    | none => .error (.keyError current)
    | some predecessors =>
      let (ancestors, pending) := markPredecessors ancestors pending predecessors
      ancestorsOf rounds ancestors pending

def gcbStringList (value : List String) (label : String) : Py (List String) := do
  raiseIf (value.contains "" || !decide value.Nodup) (.runtimeError ("invalid_" ++ label))
  return value

def reachesRoot (seen : List String) : List String → Py Bool
  | [] => .ok false
  | current :: pending =>
    if _hseen : current ∈ seen then reachesRoot seen pending
    else if current ∈ roots then .ok true
    else
      match _hrow : topology.lookup current with
      | none => .error (.runtimeError "unknown_context")
      | some predecessors => do
        let predecessors ← gcbStringList predecessors "predecessors"
        reachesRoot (current :: seen) (predecessors.reverse ++ pending)
termination_by pending => ((Worklist.untried topology seen).length, pending.length)
decreasing_by
  . exact Prod.Lex.right _ (Nat.lt_succ_self _)
  . exact Prod.Lex.left _ _ (Worklist.length_untried_cons_lt _hseen _hrow)

end Walks

section Closures

variable (t : Tables) (workflowId nodeId : String)

def Tables.topology : List (String × List String) :=
  (t.nodesOf workflowId).map fun row => (row.nodeId, row.predecessors)

def Tables.rootsOf : List String :=
  (t.revokedRoots.rows.filter (·.workflowId = workflowId)).map (·.rootNodeId)

def isRevokedClosure : Py Bool := do
  let roots := t.rootsOf workflowId
  if roots = [] then return false
  else
    let topology := t.topology workflowId
    let ancestors ← ancestorsOf topology (topology.length + 1) [nodeId] [nodeId]
    return ancestors.any fun ancestor => ancestor ∈ roots

def gcbRevokedClosure : Py Bool :=
  reachesRoot (t.topology workflowId) (t.rootsOf workflowId) [] [nodeId]

def revokedNodes : Py (List String) := do
  let roots := t.rootsOf workflowId
  if roots = [] then return []
  else descendants (← childrenMap (t.nodesOf workflowId)) roots

end Closures

def Precedes (topology : List (String × List String)) (a b : String) : Prop :=
  ∃ predecessors, (b, predecessors) ∈ topology ∧ a ∈ predecessors

section Upward

variable {topology : List (String × List String)} {roots ancestors pending seen : List String}

theorem mem_of_reaches {l : List String} (h : ∀ b ∈ l, ∀ a, Precedes topology a b → a ∈ l)
    {a b : String} (hpath : ReflTransGen (Precedes topology) a b) (hb : b ∈ l) : a ∈ l := by
  induction hpath using ReflTransGen.head_induction_on with
  | refl => exact hb
  | head hedge _ ih => exact h _ ih _ hedge

theorem markPredecessors_eq (ancestors pending preds : List String)
    : ∃ fresh, markPredecessors ancestors pending preds
          = (fresh ++ ancestors, fresh ++ pending) ∧
        fresh.Nodup ∧ ∀ p, p ∈ fresh ↔ p ∈ preds ∧ p ∉ ancestors := by
  induction preds generalizing ancestors pending with
  | nil => exact ⟨[], rfl, nodup_nil, by simp⟩
  | cons p preds ih =>
    simp only [markPredecessors, foldl_cons] at ih ⊢
    split
    . next hp =>
      obtain ⟨fresh, hfresh, hnodup, hmem⟩ := ih ancestors pending
      refine ⟨fresh, hfresh, hnodup, fun q => ?_⟩
      rw [hmem, mem_cons]
      refine and_congr_left fun hq => (or_iff_right ?_).symm
      rintro rfl
      exact hq hp
    . next hp =>
      obtain ⟨fresh, hfresh, hnodup, hmem⟩ := ih (p :: ancestors) (p :: pending)
      refine ⟨fresh ++ [p], by simp [hfresh], ?_, fun q => ?_⟩
      . rw [← concat_eq_append, nodup_concat]
        exact ⟨by simp [hmem], hnodup⟩
      . simp only [mem_append, hmem, mem_cons, not_mem_nil]
        by_cases hq : q = p <;> simp [hq, hp]

variable (hunique : Assoc.Unique topology)
  (hknown : ∀ a b, Precedes topology a b → a ∈ topology.map Prod.fst)

include hunique

theorem precedes_iff (hrow : topology.lookup b = some predecessors) (a : String)
    : Precedes topology a b ↔ a ∈ predecessors := by
  simp [Precedes, ← hunique.lookup_eq_some, hrow]

include hknown

-- The marked nodes keep the same ancestors, and in the end they are closed.
theorem ancestorsOf_eq {rounds : Nat} (hrounds : topology.length + pending.length
      ≤ rounds + ancestors.length) (hnodup : ancestors.Nodup)
    (hancestors : ∀ a ∈ ancestors, a ∈ topology.map Prod.fst)
    (hpend : ∀ p ∈ pending, p ∈ ancestors)
    (hclosed : ∀ b ∈ ancestors, b ∈ pending ∨ ∀ a, Precedes topology a b → a ∈ ancestors)
    : ∃ all, ancestorsOf topology rounds ancestors pending = .ok all ∧
        ∀ a, a ∈ all ↔ ∃ b ∈ ancestors, ReflTransGen (Precedes topology) a b := by
  have hend {ancestors pending : List String} (h : pending = [])
      (hclosed : ∀ b ∈ ancestors, b ∈ pending ∨ ∀ a, Precedes topology a b → a ∈ ancestors)
      (a : String) : a ∈ ancestors ↔ ∃ b ∈ ancestors, ReflTransGen (Precedes topology) a b :=
    ⟨fun ha => ⟨a, ha, .refl⟩, fun ⟨b, hb, hpath⟩ => mem_of_reaches
      (fun b hb => (hclosed b hb).resolve_left (by simp [h])) hpath hb⟩
  induction rounds generalizing ancestors pending with
  | zero =>
    have hlen := (hnodup.subperm hancestors).length_le
    rw [length_map] at hlen
    exact ⟨ancestors, rfl, hend (length_eq_zero_iff.mp (by omega)) hclosed⟩
  | succ rounds ih =>
    cases pending with
    | nil => exact ⟨ancestors, rfl, hend rfl hclosed⟩
    | cons current pending =>
      rw [forall_mem_cons] at hpend
      obtain ⟨preds, hrow⟩ : ∃ ps, topology.lookup current = some ps := by
        rw [← Option.isSome_iff_exists, Assoc.lookup_isSome]
        simpa using hancestors current hpend.1
      have hprecedes := precedes_iff hunique hrow
      obtain ⟨fresh, hfresh, hfreshNodup, hmem⟩ :=
        markPredecessors_eq ancestors pending preds
      have hedge : ∀ p ∈ fresh, Precedes topology p current := fun p hp =>
        (hprecedes p).mpr ((hmem p).mp hp).1
      have hmarked (p : String) (hp : Precedes topology p current) : p ∈ fresh ++ ancestors := by
        rw [mem_append, hmem]
        by_cases hold : p ∈ ancestors
        . exact .inr hold
        . exact .inl ⟨(hprecedes p).mp hp, hold⟩
      obtain ⟨all, hall, hiff⟩ := @ih (fresh ++ ancestors) (fresh ++ pending)
        (by simp only [length_append, length_cons] at hrounds ⊢; omega)
        (nodup_append'.mpr ⟨hfreshNodup, hnodup, fun p hp => ((hmem p).mp hp).2⟩)
        (forall_mem_append.mpr ⟨fun a ha => hknown a current (hedge a ha), hancestors⟩)
        (forall_mem_append.mpr ⟨fun p hp => mem_append_left _ hp, fun p hp =>
          mem_append_right _ (hpend.2 p hp)⟩)
        (forall_mem_append.mpr ⟨fun b hb => .inl (mem_append_left _ hb), fun b hb => by
          rcases hclosed b hb with hb | hb
          . rcases mem_cons.mp hb with rfl | hb
            . exact .inr hmarked
            . exact .inl (mem_append_right _ hb)
          . exact .inr fun a ha => mem_append_right _ (hb a ha)⟩)
      refine ⟨all, ?_, fun a => (hiff a).trans ⟨?_, ?_⟩⟩
      . simp only [ancestorsOf, hrow, hfresh]
        exact hall
      . rintro ⟨b, hb, hpath⟩
        rcases mem_append.mp hb with hb | hb
        . exact ⟨current, hpend.1, hpath.tail (hedge b hb)⟩
        . exact ⟨b, hb, hpath⟩
      . rintro ⟨b, hb, hpath⟩
        exact ⟨b, mem_append_right _ hb, hpath⟩

theorem reachesRoot_eq (hgood : ∀ b predecessors, (b, predecessors) ∈ topology → b ∉ roots →
      predecessors.Nodup ∧ "" ∉ predecessors)
    (hpend : ∀ p ∈ pending, p ∈ topology.map Prod.fst)
    (hseen : ∀ b ∈ seen, b ∉ roots ∧ ∀ a, Precedes topology a b → a ∈ seen ∨ a ∈ pending)
    : ∃ revoked, reachesRoot topology roots seen pending = .ok revoked ∧
        (revoked ↔ ∃ p ∈ seen ++ pending, ∃ root ∈ roots,
          ReflTransGen (Precedes topology) root p) := by
  fun_induction reachesRoot with
  | case1 seen =>
    refine ⟨false, rfl, iff_of_false (by simp) ?_⟩
    rintro ⟨p, hp, root, hroot, hpath⟩
    rw [append_nil] at hp
    exact (hseen root (mem_of_reaches (fun b hb a ha =>
      ((hseen b hb).2 a ha).resolve_right (by simp)) hpath hp)).1 hroot
  | case2 seen cur pending hcurr ih =>
    obtain ⟨revoked, hrevoked, hiff⟩ := ih (forall_mem_cons.mp hpend).2 fun b hb =>
      ⟨(hseen b hb).1, fun a ha => by
        rcases (hseen b hb).2 a ha with ha | ha
        . exact .inl ha
        . rcases mem_cons.mp ha with rfl | ha
          . exact .inl hcurr
          . exact .inr ha⟩
    refine ⟨revoked, hrevoked, hiff.trans (exists_congr fun p => and_congr_left fun _ => ?_)⟩
    by_cases hp : p = cur <;> simp [hp, hcurr]
  | case3 seen cur pending hcurr hroot =>
    exact ⟨true, rfl, iff_of_true rfl ⟨cur, by simp, cur, hroot, .refl⟩⟩
  | case4 seen cur pending hcurr hroot hrow =>
    exact absurd (hpend cur mem_cons_self) (Assoc.lookup_eq_none.mp hrow)
  | case5 seen cur pending hcurr hroot predecessors hrow ih =>
    have hprecedes := precedes_iff hunique hrow
    obtain ⟨hnodup, hempty⟩ := hgood cur predecessors (Assoc.mem_of_lookup hrow) hroot
    have hlist : gcbStringList predecessors "predecessors" = .ok predecessors := by
      simp [gcbStringList, hnodup, hempty, raiseIf]
    obtain ⟨revoked, hrevoked, hiff⟩ := ih predecessors (by
        rw [forall_mem_append]
        refine ⟨fun p hp => hknown p cur ((hprecedes p).mpr (mem_reverse.mp hp)), ?_⟩
        exact (forall_mem_cons.mp hpend).2)
      (forall_mem_cons.mpr ⟨⟨hroot, fun a ha => by simp [(hprecedes a).mp ha]⟩, fun b hb =>
        ⟨(hseen b hb).1, fun a ha => by
          have := (hseen b hb).2 a ha
          simp only [mem_cons, mem_append] at this ⊢
          tauto⟩⟩)
    refine ⟨revoked, by rw [hlist]; exact hrevoked, hiff.trans ⟨?_, ?_⟩⟩
    . rintro ⟨p, hp, root, hroot', hpath⟩
      by_cases hpred : p ∈ predecessors
      . exact ⟨cur, by simp, root, hroot', hpath.tail ((hprecedes p).mpr hpred)⟩
      . exact ⟨p, by simp [hpred] at hp ⊢; tauto, root, hroot', hpath⟩
    . rintro ⟨p, hp, hreaches⟩
      exact ⟨p, by simp at hp ⊢; tauto, hreaches⟩

end Upward

section Downward

variable {rows : List NodeRow} {roots : List String}
  (hknown : ∀ row ∈ rows, ∀ p ∈ row.predecessors, p ∈ rows.map (·.nodeId))

theorem lookup_map_nodeId (f : String → List String) (a : String)
    : (rows.map fun row => (row.nodeId, f row.nodeId)).lookup a =
      if a ∈ rows.map (·.nodeId) then some (f a) else none := by
  induction rows with
  | nil => rfl
  | cons row rows ih =>
    rw [map_cons, Assoc.lookup_cons, ih, map_cons]
    by_cases ha : a = row.nodeId <;> simp [ha]

include hknown

theorem childrenMap_eq
    : ∃ children, childrenMap rows = .ok children ∧
        ∀ a, children.lookup a = if a ∈ rows.map (·.nodeId) then
          some ((rows.filter (·.predecessors.contains a)).map (·.nodeId)) else none := by
  have hall : (rows.any fun row => !row.predecessors.all fun id => rows.any (·.nodeId = id))
      = false := by
    simpa using hknown
  refine ⟨_, ?_, lookup_map_nodeId fun a =>
    (rows.filter (·.predecessors.contains a)).map (·.nodeId)⟩
  simp only [childrenMap, hall]
  rfl

theorem descendants_eq (hroots : ∀ root ∈ roots, root ∈ rows.map (·.nodeId))
    : ∃ reached, (childrenMap rows >>= fun children => descendants children roots) = .ok reached ∧
        ∀ a, a ∈ reached ↔ ∃ root ∈ roots, ReflTransGen
          (Precedes (rows.map fun row => (row.nodeId, row.predecessors))) root a := by
  obtain ⟨children, hchildren, hlook⟩ := childrenMap_eq hknown
  have hseeds : (roots.any fun root => (children.lookup root).isNone) = false := by
    rw [any_eq_false]
    intro root hroot
    rw [hlook, if_pos (hroots root hroot)]
    simp
  have hrefers : Worklist.Refers children (fun next => (.ok ((), next) : Py (Unit × List String)))
      = Precedes (rows.map fun row => (row.nodeId, row.predecessors)) := by
    ext a b
    simp only [Worklist.Refers, hlook, Precedes, mem_map, Prod.mk.injEq]
    constructor
    . rintro ⟨next, _, _, hnext, heq, hb⟩
      obtain ⟨-, rfl⟩ := Prod.mk.inj (Except.ok.inj heq)
      split at hnext
      . cases hnext
        obtain ⟨row, hrow, rfl⟩ := mem_map.mp hb
        obtain ⟨hrow, ha⟩ := mem_filter.mp hrow
        exact ⟨_, ⟨row, hrow, rfl, rfl⟩, by simpa using ha⟩
      . cases hnext
    . rintro ⟨_, ⟨row, hrow, rfl, rfl⟩, ha⟩
      refine ⟨_, (), _, if_pos (mem_map.mp (hknown row hrow a ha)), rfl, ?_⟩
      exact mem_map_of_mem (mem_filter.mpr ⟨hrow, by simpa using ha⟩)
  have hrun := @Worklist.run_explores _ _ Unit PyError _ children
    (fun next => .ok ((), next)) [] roots (by simp)
  rw [hchildren, ok_bind, descendants, hseeds]
  split at hrun
  . next found hfound =>
    refine ⟨found.map Prod.fst, by rw [hfound]; rfl, fun a => ⟨fun ha => ?_, ?_⟩⟩
    . obtain ⟨root, hroot, hpath⟩ := hrun.reached a ha
      exact ⟨root, hroot, hrefers ▸ hpath⟩
    . rintro ⟨root, hroot, hpath⟩
      have ha : a ∈ rows.map (·.nodeId) := by
        rcases hpath.cases_tail with rfl | ⟨_, -, _, hmem, -⟩
        . exact hroots _ hroot
        . obtain ⟨row, hrow, heq⟩ := mem_map.mp hmem
          exact mem_map.mpr ⟨row, hrow, congrArg Prod.fst heq⟩
      rcases hrun.covers hroot (hrefers ▸ hpath) with hmem | hmem | hnone
      . simp at hmem
      . exact hmem
      . rw [hlook, if_pos ha] at hnone
        cases hnone
  . obtain ⟨_, -, _, -, _, _, -, herror⟩ := hrun
    cases herror

end Downward

theorem Tables.unique_topology (t : Tables) (workflowId : String)
    : Assoc.Unique (t.topology workflowId) := by
  rw [Assoc.Unique, Tables.topology, map_map, List.Nodup, pairwise_map, Tables.nodesOf,
    pairwise_filter]
  refine t.nodes.distinct.imp fun hcompat ha hb heq => ?_
  simp_all [TableSchema.compatible, NodeRow.isFor]

theorem revocation_closures_agree_iff (t : Tables) (workflowId : String)
    (hknown : ∀ row ∈ t.nodesOf workflowId, ∀ p ∈ row.predecessors,
      p ∈ (t.nodesOf workflowId).map (·.nodeId))
    (hroots : ∀ root ∈ t.rootsOf workflowId, root ∈ (t.nodesOf workflowId).map (·.nodeId))
    : (∃ revoked, revokedNodes t workflowId = .ok revoked ∧
        ∀ nodeId ∈ (t.nodesOf workflowId).map (·.nodeId),
          isRevokedClosure t workflowId nodeId = .ok (decide (nodeId ∈ revoked)) ∧
          gcbRevokedClosure t workflowId nodeId = .ok (decide (nodeId ∈ revoked)) ∧
          (nodeId ∈ revoked ↔ ∃ root ∈ t.rootsOf workflowId,
            ReflTransGen (Precedes (t.topology workflowId)) root nodeId)) ↔
      ∀ row ∈ t.nodesOf workflowId, row.nodeId ∉ t.rootsOf workflowId →
        row.predecessors.Nodup ∧ "" ∉ row.predecessors := by
  have hunique := t.unique_topology workflowId
  have hkeys : (t.topology workflowId).map Prod.fst = (t.nodesOf workflowId).map (·.nodeId) := by
    simp [Tables.topology]
  constructor
  . rintro ⟨revoked, -, hagree⟩ row hrow hroot
    obtain ⟨-, hclosure, -⟩ := hagree row.nodeId (mem_map_of_mem hrow)
    have hlook : (t.topology workflowId).lookup row.nodeId = some row.predecessors :=
      hunique.lookup_eq_some.mpr (mem_map_of_mem hrow)
    -- the walk from a node that is no root reads that node's list first
    rw [gcbRevokedClosure, reachesRoot, dif_neg not_mem_nil, if_neg hroot] at hclosure
    split at hclosure
    . cases hclosure
    . next predecessors hpreds =>
      obtain rfl := Option.some.inj (hlook.symm.trans hpreds)
      obtain ⟨_, hlist, -⟩ := bind_eq_ok.mp hclosure
      simp only [gcbStringList, bind_eq_ok, exists_unit, raiseIf_eq_ok] at hlist
      simpa [and_comm] using hlist.1
  . intro hgood
    have hprecedes (a b : String) (h : Precedes (t.topology workflowId) a b)
        : a ∈ (t.topology workflowId).map Prod.fst := by
      obtain ⟨_, hmem, ha⟩ := h
      obtain ⟨row, hrow, heq⟩ := mem_map.mp hmem
      cases heq
      exact hkeys ▸ hknown row hrow a ha
    obtain ⟨revoked, hrevoked, hiff⟩ := descendants_eq hknown hroots
    refine ⟨revoked, ?_, fun nodeId hnode => ⟨?_, ?_, hiff nodeId⟩⟩
    . rw [revokedNodes]
      split
      . next hnil =>
        obtain rfl : revoked = [] := eq_nil_iff_forall_not_mem.mpr (by simp [hiff, hnil])
        rfl
      . exact hrevoked
    . simp only [isRevokedClosure]
      split
      . next hnil =>
        rw [decide_eq_false (by simp [hiff, hnil])]
        rfl
      . obtain ⟨_, hall, hmem⟩ := @ancestorsOf_eq _ [nodeId] [nodeId] hunique hprecedes
          ((t.topology workflowId).length + 1) (by simp) (by simp) (by simpa [hkeys] using hnode)
          (by simp) (by simp)
        rw [hall, ok_bind, pure_inj, Bool.eq_iff_iff, decide_eq_true_eq, hiff, any_eq_true]
        simp only [hmem, mem_singleton, exists_eq_left, decide_eq_true_eq]
        exact exists_congr fun root => and_comm
    . obtain ⟨_, hans, heq⟩ := @reachesRoot_eq _ (t.rootsOf workflowId) [nodeId] []
        hunique hprecedes (fun b predecessors hmem hb => by
          obtain ⟨row, hrow, heq⟩ := mem_map.mp hmem
          cases heq
          exact hgood row hrow hb) (by simpa [hkeys] using hnode) (by simp)
      rw [gcbRevokedClosure, hans, Except.ok.injEq, Bool.eq_iff_iff, heq, decide_eq_true_eq, hiff]
      simp [Tables.topology]

namespace Sample

def node (nodeId : String) (predecessors : List String) : NodeRow :=
  ⟨"w", nodeId, .blocked, 0, "", [], predecessors, none, none, none, none, none, none, false⟩

def tables (predecessors : List String) : Tables :=
  { Tables.empty with
    nodes := ⟨[node "a" [], node "b" predecessors], fun _ _ => rfl,
      by simp [TableSchema.compatible, NodeRow.isFor, node]⟩
    revokedRoots := ⟨[⟨"w", "a", 1, "event", ""⟩], fun _ _ => rfl, by simp⟩ }

end Sample

theorem revocation_closures_agree_sample
    : ∃ revoked, revokedNodes (Sample.tables ["a"]) "w" = .ok revoked ∧
        isRevokedClosure (Sample.tables ["a"]) "w" "b" = .ok (decide ("b" ∈ revoked)) ∧
        gcbRevokedClosure (Sample.tables ["a"]) "w" "b" = .ok (decide ("b" ∈ revoked)) := by
  obtain ⟨revoked, hrevoked, hagree⟩ := (revocation_closures_agree_iff (Sample.tables ["a"]) "w"
    (by decide) (by decide)).mpr (by decide)
  obtain ⟨hup, hstore, -⟩ := hagree "b" (by decide)
  exact ⟨revoked, hrevoked, hup, hstore⟩

/-- A predecessor that is listed twice stops the walk of the store. -/
theorem gcbRevokedClosure_denies_repeated_predecessor
    : (∀ row ∈ (Sample.tables ["a", "a"]).nodesOf "w", ∀ p ∈ row.predecessors,
        p ∈ ((Sample.tables ["a", "a"]).nodesOf "w").map (·.nodeId)) ∧
      (Sample.tables ["a", "a"]).rootsOf "w" = ["a"] ∧
      isRevokedClosure (Sample.tables ["a", "a"]) "w" "b" = .ok true ∧
      gcbRevokedClosure (Sample.tables ["a", "a"]) "w" "b"
        = .error (.runtimeError "invalid_predecessors") := by
  refine ⟨by decide, rfl, by decide, ?_⟩
  rw [gcbRevokedClosure, reachesRoot]
  rfl

end Gcb
