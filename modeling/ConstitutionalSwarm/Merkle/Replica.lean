import ConstitutionalSwarm.Data.Countdown
import ConstitutionalSwarm.Merkle.Node
import Mathlib.Data.Finset.Sort

namespace Merkle

open Raising

structure Replica where
  agentId : String
  rejectUnverified : Bool
  nodes : List DAGNode
  children : String → List String
  heads : Finset String
  causallyClosed : Finset String
  missingParentCount : String → ℤ

namespace Replica

def new (agentId : String) (rejectUnverified : Bool) : Replica where
  agentId := agentId
  rejectUnverified := rejectUnverified
  nodes := []
  children _ := []
  heads := ∅
  causallyClosed := ∅
  missingParentCount _ := 0

variable (r : Replica)

def cids : List String :=
  r.nodes.map (·.cid)

def get (cid : String) : Option DAGNode :=
  r.nodes.find? (·.cid = cid)

def waiting (closedCid : String) : List String :=
  (r.children closedCid).filter fun childCid => childCid ∈ r.cids ∧ childCid ∉ r.causallyClosed

def markClosed (closedCid : String) : Replica :=
  { r with
    causallyClosed := insert closedCid r.causallyClosed
    missingParentCount := Function.update r.missingParentCount closedCid 0 }

def closeCausality : ℕ → Replica → List String → Replica
  | 0, r, _ => r
  | _ + 1, r, [] => r
  | fuel + 1, r, closedCid :: pending =>
    if closedCid ∈ r.causallyClosed then closeCausality fuel r pending
    else
      let marked := r.markClosed closedCid
      let (missingParentCount, pending) :=
        (marked.waiting closedCid).foldl (Countdown.visit List.cons)
          (marked.missingParentCount, pending)
      closeCausality fuel { marked with missingParentCount } pending

def linkParent (node : DAGNode) (r : Replica) (parentCid : String) : Replica :=
  { r with
    children := Function.update r.children parentCid ((r.children parentCid).insert node.cid)
    heads := if parentCid ∈ r.cids then r.heads.erase parentCid else r.heads }

def link (node : DAGNode) : Replica :=
  let linked := node.parentCids.foldl (linkParent node)
    { r with nodes := r.nodes ++ [node], heads := insert node.cid r.heads }
  { linked with
    heads := if (linked.children node.cid).any (· ∈ linked.cids) then linked.heads.erase node.cid
      else linked.heads }

def store (node : DAGNode) : Replica :=
  if node.cid ∈ r.cids then r
  else
    let linked := r.link node
    let missing := node.parentCids.countP (· ∉ linked.causallyClosed)
    let counted := { linked with
      missingParentCount := Function.update linked.missingParentCount node.cid missing }
    if missing = 0 then closeCausality (counted.nodes.length + 1) counted [node.cid] else counted

section Operations

variable [Apcc.Platform] [Interpreter]

def receive (verify : Bool) (s : Replica × ℕ) (node : DAGNode) : Replica × ℕ :=
  if node.cid ∈ s.1.cids then s
  else if verify && !node.verifyCid then s
  else (s.1.store node, s.2 + 1)

def mergeNodes (nodes : List DAGNode) : Replica × ℕ :=
  nodes.foldl (receive r.rejectUnverified) (r, 0)

def merge (other : Replica) : Replica × ℕ :=
  r.mergeNodes other.nodes

def mergeVerifiedNodes (nodes : List DAGNode) : Replica × ℕ :=
  nodes.foldl (receive false) (r, 0)

def sortedSet (cids : List String) : List String :=
  cids.toFinset.sort

def frontierSnapshot : List String :=
  r.heads.sort

def draft (payload payloadType : String) (bodesPassed : Bool) (constitutionalHash : String)
    (metadata : JsonObject) (timestamp : PyFloat) : NodeFields where
  cid := ""
  agentId := r.agentId
  payload := payload
  payloadType := payloadType
  parentCids := r.frontierSnapshot
  timestamp := timestamp
  bodesPassed := bodesPassed
  constitutionalHash := constitutionalHash
  metadata := metadata

def append (payload payloadType : String) (bodesPassed : Bool) (constitutionalHash : String)
    (metadata : JsonObject) (timestamp : PyFloat) : Py (DAGNode × Replica) := do
  let _ ← normalizeJsonValue (.dict metadata.fields)
  let node ← (r.draft payload payloadType bodesPassed constitutionalHash metadata
    timestamp).withCid.postInit
  return (node, r.store node)

end Operations

def storedChildren (cid : String) : List String :=
  ((r.children cid).filter (· ∈ r.cids)).mergeSort

def inDegree (cid : String) : ℤ :=
  match r.get cid with
  | some node => (node.parentCids.filter (· ∈ r.cids)).length
  | none => 0

def heappush (cid : String) (queue : List String) : List String :=
  queue.orderedInsert (· ≤ ·) cid

def kahn (children : String → List String) : ℕ → (String → ℤ) → List String → List String
  | 0, _, _ => []
  | _ + 1, _, [] => []
  | fuel + 1, inDegree, cid :: queue =>
    let (inDegree, queue) := (children cid).foldl (Countdown.visit heappush) (inDegree, queue)
    cid :: kahn children fuel inDegree queue

def taken : List String :=
  kahn r.storedChildren (r.nodes.length + 1) r.inDegree (r.cids.filter (r.inDegree · = 0)).mergeSort

def topologicalOrder : Py (List DAGNode) := do
  let result := r.taken.filterMap r.get
  raiseIf (result.length ≠ r.nodes.length)
    (.valueError "Merkle DAG contains a cycle or inconsistent child index")
  return result

end Replica

end Merkle
