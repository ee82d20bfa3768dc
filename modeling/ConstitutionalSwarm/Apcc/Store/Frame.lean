import ConstitutionalSwarm.Apcc.Store.Recovery
import ConstitutionalSwarm.Apcc.Store.Status

namespace Apcc

open List

inductive Call where
  | atomicCommit (request : AtomicCommitRequest) (now : Int)
  | supersede (request : SupersessionRequest) (now : Int)
  | replayCommit (commitId requestDigest : String)
  | recover (commitId requestDigest : String)

structure SameAuthority (s s' : Store) : Prop where
  logicalNodes : s'.logicalNodes = s.logicalNodes
  certificates : s'.certificates = s.certificates
  certificateDispositions : s'.certificateDispositions = s.certificateDispositions
  predecessorEdges : s'.predecessorEdges = s.predecessorEdges
  supersessionEdges : s'.supersessionEdges = s.supersessionEdges
  actorRevocations : s'.actorRevocations = s.actorRevocations
  workflowRevocations : s'.workflowRevocations = s.workflowRevocations
  trustLog : s'.trustLog = s.trustLog
  outbox : s'.outbox = s.outbox

theorem SameAuthority.refl (s : Store) : SameAuthority s s :=
  ⟨rfl, rfl, rfl, rfl, rfl, rfl, rfl, rfl, rfl⟩

structure KeepsRows (s s' : Store) : Prop where
  candidates : s.candidates.rows <+: s'.candidates.rows
  commitIndex : s.commitIndex.rows <+: s'.commitIndex.rows
  requestIndex : s.requestIndex.rows <+: s'.requestIndex.rows
  nonceLedger : s.nonceLedger.rows <+: s'.nonceLedger.rows
  evidenceRefs : s.evidenceRefs.rows <+: s'.evidenceRefs.rows
  commitOutputRefs : s.commitOutputRefs.rows <+: s'.commitOutputRefs.rows
  auditEvents : s.auditEvents.rows <+: s'.auditEvents.rows
  decisions : s.decisions.rows <+: s'.decisions.rows
  controlEvents : s.controlEvents.rows <+: s'.controlEvents.rows
  commitConflicts : s.commitConflicts.rows <+: s'.commitConflicts.rows

section Reads

variable [Platform] {authority : Authority} {s s' : Store}

end Reads

section Calls

variable [Platform] (authority : Authority)

def Call.run (s : Store) : Call → Py (RequestOutcome × Store)
  | .atomicCommit request now => do
    let (result, s') ← Apcc.atomicCommit authority s request now
    return (result.outcome, s')
  | .supersede request now => do
    let (answer, s') ← Apcc.supersede authority s request now
    return ((← answer).result.outcome, s')
  | .replayCommit commitId requestDigest => do
    return ((← replay s commitId requestDigest).outcome, s)
  | .recover commitId requestDigest => do
    let (result, s') ← Apcc.recover s commitId requestDigest
    return (result.outcome, s')

end Calls

section Effects

variable [Platform] {authority : Authority} {s s' : Store}

structure Framed (s s' : Store) : Prop where
  authority : SameAuthority s s'
  rows : KeepsRows s s'

omit [Platform] in
theorem Framed.refl (s : Store) : Framed s s :=
  ⟨.refl s, ⟨prefix_rfl, prefix_rfl, prefix_rfl, prefix_rfl, prefix_rfl,
    prefix_rfl, prefix_rfl, prefix_rfl, prefix_rfl, prefix_rfl⟩⟩

variable {commitId : String} {result : CommitResult} {request : AtomicCommitRequest}
  {old : Option String}

theorem conflict_framed (h : conflict s commitId claim = .ok (result, s'))
    : Framed s s' := by
  have hgrows := conflict_grows h
  obtain ⟨_, ⟨_, -, -, rfl⟩ | ⟨-, -, hwr⟩⟩ := conflict_cases h
  . exact .refl _
  . rw [hwr.unchanged] at hgrows ⊢
    exact ⟨⟨rfl, rfl, rfl, rfl, rfl, rfl, rfl, rfl, rfl⟩, ⟨prefix_rfl, hgrows.commitIndex,
      hgrows.requestIndex, hgrows.nonceLedger, hgrows.evidenceRefs, hgrows.commitOutputRefs,
      hgrows.auditEvents, hgrows.decisions, hgrows.controlEvents, hgrows.commitConflicts⟩⟩

theorem DenialWrites.framed {owner} (h : DenialWrites s request reason old owner s')
    : Framed s s' := by
  have hindex := prefix_of_insert? h.commitIndex
  have haudits := prefix_of_insert? h.auditEvents
  have hdecs := prefix_of_insert? h.decisions
  have hreqs : s.requestIndex.rows <+: s'.requestIndex.rows := by
    obtain ⟨_, -, hins⟩ := h.requestIndex
    exact prefix_of_insert? hins
  have hnonces : s.nonceLedger.rows <+: s'.nonceLedger.rows := by
    rcases h.nonce with ⟨_, -, -, -, hsame⟩ | ⟨-, -, -, hins⟩
    . rw [hsame]
    . exact prefix_of_insert? hins
  rw [h.unchanged]
  exact ⟨⟨rfl, rfl, rfl, rfl, rfl, rfl, rfl, rfl, rfl⟩,
    ⟨prefix_rfl, hindex, hreqs, hnonces, prefix_rfl, prefix_rfl, haudits,
    hdecs, prefix_rfl, prefix_rfl⟩⟩

theorem CommitEffect.framed (h : CommitEffect authority s request old now result s')
    (hout : result.outcome ≠ .committed) : Framed s s' := by
  cases h with
  | replayed => exact .refl s
  | conflicted _ _ _ hconf => exact conflict_framed hconf
  | denied _ _ hwr => exact hwr.framed
  | committed => exact absurd rfl hout

def Store.ConflictsIndexed (s : Store) : Prop :=
  ∀ r ∈ s.commitConflicts, s.Indexed r.commitId

theorem CommitWrites.supersessionAnswer_eq {seq}
    (hconfs : s.ConflictsIndexed) (hidx : s.commitIndex? request.commitId = none)
    (h : CommitWrites s request old seq sealed s') (digest : String)
    : supersessionAnswer s' request.commitId digest = .ok (committedResult request old sealed) := by
  have hnone : s'.commitConflicts.find? (fun r => r.commitId = request.commitId &&
      r.conflictingRequestDigest = digest) = none := by
    rw [h.unchanged, Table.find?_eq_none]
    intro r hr
    obtain ⟨row, hrow, hid⟩ := hconfs r hr
    have hother := Store.commitIndex?_eq_none.mp hidx row hrow
    simp [← hid, hother]
  have hindex : s'.commitIndex? request.commitId = some (indexRow request old) :=
    commitIndex?_of_insert? h.commitIndex
  simp only [supersessionAnswer, hnone, hindex, replay_of_indexed hindex rfl, h.decidedResult_eq]

end Effects

end Apcc

namespace Apcc.Sample

end Apcc.Sample
