import ConstitutionalSwarm.Gossip.Server

/-!
This module contains what a gossip server keeps to in a session, whatever an authenticated client
sends and whatever happens to its replica meanwhile.
-/

namespace Gossip

open Raising List
open Merkle (DAGNode Replica)

variable {limits : Limits} {crdt : Replica} {s : Session} {outcome : Outcome}

structure SameCounts (s s' : Session) : Prop where
  nodesReceived : s'.nodesReceived = s.nodesReceived
  bytesReceived : s'.bytesReceived = s.bytesReceived
  framesReceived : s'.framesReceived = s.framesReceived

inductive Resolves (crdt : Replica) (s : Session) : Outcome → Prop
  | gaveUp : Resolves crdt s ⟨crdt, s, some (.complete false s.nodesReceived), true⟩
  | asked {s' : Session} {cids : List String} {budget : ℕ} (hcounts : SameCounts s s')
      (hfrontier : s'.frontier = s.frontier)
      : Resolves crdt s ⟨crdt, s', some (.fetch cids budget), false⟩
  | certified {frontier : List String} (hfrontier : s.frontier = some frontier)
      (hmissing : crdt.missingAncestry frontier maxFetchCids maxAncestryScan = .ok [])
      : Resolves crdt s ⟨crdt, s, some (.complete true s.nodesReceived), true⟩
  | acknowledged {frontier : List String} (hfrontier : s.frontier = some frontier)
      (hmissing : crdt.missingAncestry frontier maxFetchCids maxAncestryScan = .ok [])
      : Resolves crdt s ⟨crdt,
          { s with frontier := none, frontierIsFinal := false, frontierScanTruncated := false },
          some (.ack true none none), false⟩

theorem resolves_of_eq_ok (h : resolveFrontierPage limits crdt s = .ok outcome)
    : Resolves crdt s outcome := by
  unfold resolveFrontierPage at h
  split at h
  . cases h
  . next frontier hfront =>
    split at h
    . cases h
      exact .gaveUp
    . split at h
      . next checkpoints hmiss =>
        split at h
        . cases h
          exact .gaveUp
        . cases h
          exact .asked ⟨rfl, rfl, rfl⟩ rfl
      . next hmiss =>
        split at h
        . cases h
          exact .certified hfront hmiss
        . cases h
          exact .acknowledged hfront hmiss
      . next missing hne hmiss =>
        split at h
        . cases h
          exact .gaveUp
        . cases h
          exact .asked ⟨rfl, rfl, rfl⟩ rfl

theorem SameCounts.trans (h : SameCounts s s') (h' : SameCounts s' s'')
    : SameCounts s s'' :=
  ⟨h'.nodesReceived.trans h.nodesReceived, h'.bytesReceived.trans h.bytesReceived,
    h'.framesReceived.trans h.framesReceived⟩

theorem Resolves.same (h : Resolves crdt s outcome)
    : outcome.crdt = crdt ∧ SameCounts s outcome.session := by
  cases h with
  | gaveUp => exact ⟨rfl, rfl, rfl, rfl⟩
  | asked hcounts hfront => exact ⟨rfl, hcounts⟩
  | certified hfront hmiss => exact ⟨rfl, rfl, rfl, rfl⟩
  | acknowledged hfront hmiss => exact ⟨rfl, rfl, rfl, rfl⟩

theorem Resolves.over_of_complete (h : Resolves crdt s outcome)
    (hreply : outcome.reply = some (.complete true n)) : outcome.ended := by
  cases h with
  | gaveUp => rfl
  | asked hcounts hfront => cases hreply
  | certified hfront hmiss => rfl
  | acknowledged hfront hmiss => cases hreply

variable [Apcc.Platform] [Interpreter]

inductive Handles (limits : Limits) (crdt : Replica) (s : Session) : Envelope → Outcome → Prop
  | merged {envelope : Envelope} {s' : Session} {reply : Option Reply} (nodes : List DAGNode)
      (henvelope : envelope = .batch nodes ∨ envelope = .nodes nodes)
      (hverified : ∀ n ∈ nodes, n.verifyCid)
      (hbudget : s.nodesReceived + nodes.length ≤ limits.maxNodesPerSession)
      (hnodes : s'.nodesReceived = s.nodesReceived + nodes.length)
      (hbytes : s'.bytesReceived = s.bytesReceived) (hframes : s'.framesReceived = s.framesReceived)
      (hfrontier : s'.frontier = s.frontier) (hreply : ∀ n, reply ≠ some (.complete true n))
      : Handles limits crdt s envelope ⟨(crdt.mergeVerifiedNodes nodes).1, s', reply, false⟩
  | refused {nodes : List DAGNode}
      : Handles limits crdt s (.batch nodes)
        ⟨crdt, s, some (.ack false none (some "invalid CID")), false⟩
  | announced {cids : List String} {page : ℤ} {final : Bool} {s' : Session}
      {outcome : Outcome} (hnone : s.frontier = none) (hcounts : SameCounts s s')
      (hfrontier : s'.frontier = some cids) (hresolves : Resolves crdt s' outcome)
      : Handles limits crdt s (.frontier cids page final) outcome
  | completed {nodesReceived : Option ℤ} {s' : Session} {outcome : Outcome}
      (hcounts : SameCounts s s') (hfrontier : s'.frontier = s.frontier)
      (hresolves : Resolves crdt s' outcome)
      : Handles limits crdt s (.complete true nodesReceived) outcome

theorem handles_of_eq_ok (h : handleEnvelope limits crdt s env = .ok outcome)
    : Handles limits crdt s env outcome := by
  cases env with
  | batch nodes =>
    simp only [handleEnvelope, bind_eq_ok, exists_unit, raiseIf_eq_ok, decide_eq_false_iff_not,
      not_lt] at h
    obtain ⟨hbudget, h⟩ := h
    split at h
    . cases h
      exact .refused
    . next hany =>
      cases h
      apply Handles.merged nodes (.inl rfl)
      . simpa using hany
      . exact hbudget
      . rfl
      . rfl
      . rfl
      . rfl
      . intro n hn
        cases hn
  | frontier cids page final =>
    simp only [handleEnvelope, bind_eq_ok, exists_unit, raiseIf_eq_ok] at h
    obtain ⟨hnone, -, -, hresolve⟩ := h
    have hresolves := resolves_of_eq_ok hresolve
    apply Handles.announced _ _ _ hresolves
    . simpa using hnone
    . exact ⟨rfl, rfl, rfl⟩
    . rfl
  | fetch cids budget => cases h
  | nodes nodes =>
    simp only [handleEnvelope, bind_eq_ok, exists_unit, raiseIf_eq_ok, decide_eq_false_iff_not,
      not_lt, pure_eq_ok] at h
    obtain ⟨-, hbudget, hany, h⟩ := h
    cases h
    apply Handles.merged nodes (.inr rfl)
    . simpa using hany
    . exact hbudget
    . rfl
    . rfl
    . rfl
    . rfl
    . intro n hn
      cases hn
  | complete complete nodesReceived =>
    simp only [handleEnvelope, bind_eq_ok, exists_unit, raiseIf_eq_ok, Bool.not_eq_false'] at h
    obtain ⟨rfl, hresolve⟩ := h
    have hresolves := resolves_of_eq_ok hresolve
    apply Handles.completed _ _ hresolves
    . exact ⟨rfl, rfl, rfl⟩
    . rfl
  | ack ok nodesReceived msg => cases h
  | error msg => cases h

theorem Resolves.complete (h : Resolves crdt s outcome) (hsound : crdt.Sound)
    (hcid : cid ∈ s.frontier.getD [])
    (hreply : outcome.ended = false ∨ ∃ n, outcome.reply = some (.complete true n))
    : Dag.Complete outcome.crdt.parents cid ∨
      outcome.ended = false ∧ cid ∈ outcome.session.frontier.getD [] := by
  have hclosed : ∀ frontier, s.frontier = some frontier →
      crdt.missingAncestry frontier maxFetchCids maxAncestryScan = .ok [] → 
        Dag.Complete crdt.parents cid := by
    intro frontier hfront hmiss
    rw [hfront] at hcid
    exact hsound.toIndexed.complete_of_missingAncestry (by decide) hmiss hcid
  cases h with
  | gaveUp => simp at hreply
  | asked hcounts hfront => exact .inr ⟨rfl, by rw [hfront]; exact hcid⟩
  | certified hfront hmiss => exact .inl (hclosed _ hfront hmiss)
  | acknowledged hfront hmiss => exact .inl (hclosed _ hfront hmiss)

def Envelope.announced : Envelope → List String
  | .frontier cids _ _ => cids
  | _ => []

theorem Handles.complete (h : Handles limits crdt s env outcome) (hsound : crdt.Sound)
    (hcid : cid ∈ env.announced ∨ cid ∈ s.frontier.getD [])
    (hreply : outcome.ended = false ∨ ∃ n, outcome.reply = some (.complete true n))
    : Dag.Complete outcome.crdt.parents cid ∨
      outcome.ended = false ∧ cid ∈ outcome.session.frontier.getD [] := by
  cases h with
  | merged nodes henv hver hbudget hnodes hbytes hframes hfront hreply =>
    have hnone : env.announced = [] := by
      rcases henv with rfl | rfl
      . rfl
      . rfl
    rw [hnone] at hcid
    exact .inr ⟨rfl, by rw [hfront]; exact hcid.resolve_left not_mem_nil⟩
  | refused => exact .inr ⟨rfl, hcid.resolve_left not_mem_nil⟩
  | announced hnone hcounts hfront hresolves =>
    refine hresolves.complete hsound ?_ hreply
    rw [hnone] at hcid
    rw [hfront]
    exact hcid.resolve_right not_mem_nil
  | completed hcounts hfront hresolves =>
    refine hresolves.complete hsound ?_ hreply
    rw [hfront]
    exact hcid.resolve_left not_mem_nil

theorem Handles.over_of_complete (h : Handles limits crdt s env outcome)
    (hreply : outcome.reply = some (.complete true n)) : outcome.ended := by
  cases h with
  | merged nodes henv hver hbudget hnodes hbytes hframes hfront hnot =>
    exact absurd hreply (hnot n)
  | refused => cases hreply
  | announced hnone hcounts hfront hresolves => exact hresolves.over_of_complete hreply
  | completed hcounts hfront hresolves => exact hresolves.over_of_complete hreply

structure Bounded (limits : Limits) (crdt : Replica) (s : Session) (outcome : Outcome) : Prop where
  sound : outcome.crdt.Sound
  nodes_le : crdt.nodes <+: outcome.crdt.nodes
  verified : ∀ n ∈ outcome.crdt.nodes, n ∈ crdt.nodes ∨ n.verifyCid
  stored_le : outcome.crdt.nodes.length + s.nodesReceived ≤
    crdt.nodes.length + outcome.session.nodesReceived
  budget_le : s.nodesReceived ≤ limits.maxNodesPerSession →
    outcome.session.nodesReceived ≤ limits.maxNodesPerSession
  bytesReceived : outcome.session.bytesReceived = s.bytesReceived
  framesReceived : outcome.session.framesReceived = s.framesReceived

theorem Bounded.of_same (hsound : crdt.Sound) (hcrdt : outcome.crdt = crdt)
    (hcounts : SameCounts s outcome.session) : Bounded limits crdt s outcome where
  sound := hcrdt ▸ hsound
  nodes_le := by rw [hcrdt]
  verified n hn := .inl (hcrdt ▸ hn)
  stored_le := by rw [hcrdt, hcounts.nodesReceived]
  budget_le h := by rwa [hcounts.nodesReceived]
  bytesReceived := hcounts.bytesReceived
  framesReceived := hcounts.framesReceived

theorem Handles.bounded (h : Handles limits crdt s env outcome)
    (hsound : crdt.Sound) : Bounded limits crdt s outcome := by
  cases h with
  | merged nodes henv hver hbudget hnodes hbytes hframes hfront hreply =>
    constructor
    . exact hsound.foldl_receive (.inr hver)
    . exact Replica.nodes_le_foldl_receive false nodes (crdt, 0)
    . intro n hn
      exact (Replica.mem_nodes_foldl_receive hn).imp_right (hver n)
    . have hlen := Replica.length_nodes_foldl_receive_le false nodes (crdt, 0)
      simp only at hlen
      simp only [hnodes, Replica.mergeVerifiedNodes]
      omega
    . intro _
      rw [hnodes]
      exact hbudget
    . exact hbytes
    . exact hframes
  | refused => exact .of_same hsound rfl ⟨rfl, rfl, rfl⟩
  | announced hnone hcounts hfront hresolves =>
    exact .of_same hsound hresolves.same.1 (hcounts.trans hresolves.same.2)
  | completed hcounts hfront hresolves =>
    exact .of_same hsound hresolves.same.1 (hcounts.trans hresolves.same.2)

inductive Receives (limits : Limits) (now : PyFloat) (message : Option String) (c : Connection)
    : Connection → List Reply → Prop
  | rejected (text : String)
      : Receives limits now message c
        ⟨c.crdt, { c.session with framesReceived := c.session.framesReceived + 1 }, true⟩
        [.error text]
  | handled {text : String} {envelope : Envelope} {outcome : Outcome} {ended : Bool}
      {closing : List Reply} (htext : message = some text)
      (hbytes : c.session.bytesReceived + utf8Size text ≤ limits.maxBytesPerSession)
      (hdecode : decodeEnvelope now text = .ok envelope)
      (hhandles : Handles limits c.crdt
        { c.session with
          framesReceived := c.session.framesReceived + 1
          bytesReceived := c.session.bytesReceived + utf8Size text } envelope outcome)
      (hended : ended = false → outcome.ended = false ∧ outcome.session.exhausted = false)
      (hclosing : ∀ reply ∈ closing, reply = .complete false outcome.session.nodesReceived)
      : Receives limits now message c ⟨outcome.crdt, outcome.session, ended⟩
        (outcome.reply.toList ++ closing)

theorem receives_of_eq (h : Connection.receive limits now msg c = (c', replies))
    : Receives limits now msg c c' replies := by
  unfold Connection.receive at h
  simp only at h
  split at h
  . next error herror =>
    cases h
    exact .rejected _
  . next outcome hok =>
    cases msg with
    | none => cases hok
    | some text =>
      simp only [handleFrame, bind_eq_ok, exists_unit, raiseIf_eq_ok, decide_eq_false_iff_not,
        not_lt] at hok
      obtain ⟨hbytes, _, hdec, henv⟩ := hok
      have hhandles := handles_of_eq_ok henv
      split at h
      . next hexhausted =>
        cases h
        refine .handled rfl hbytes hdec hhandles ?_ ?_
        . intro hended
          cases hended
        . intro reply hreply
          exact mem_singleton.mp hreply
      . next hexhausted =>
        cases h
        have hreplies : outcome.reply.toList = outcome.reply.toList ++ [] := (append_nil _).symm
        rw [hreplies]
        refine .handled rfl hbytes hdec hhandles ?_ ?_
        . intro hended
          simpa [hended] using hexhausted
        . intro reply hreply
          cases hreply

structure Exchange where
  now : PyFloat
  message : Option String
  before : Replica
  after : Replica
  replies : List Reply

namespace Exchange

def announced (e : Exchange) : List String :=
  match e.message.map (decodeEnvelope e.now) with
  | some (.ok envelope) => envelope.announced
  | _ => []

def isRejected (e : Exchange) : Bool :=
  e.replies.any fun reply => match reply with
    | .error _ => true
    | _ => false

def acceptedBytes (e : Exchange) : ℕ :=
  if e.isRejected then 0 else (e.message.map utf8Size).getD 0

def stored (e : Exchange) : ℕ :=
  e.after.nodes.length - e.before.nodes.length

end Exchange

def announcedIn (trace : List Exchange) : List String :=
  trace.flatMap (·.announced)

/--
The exchanges of a session, from the authentication on. The replica is shared: between two frames
others may append to it and merge verified nodes.
-/
inductive Serves (limits : Limits) : List Exchange → Connection → Prop
  | start {crdt : Replica} (h : crdt.Reached) : Serves limits [] ⟨crdt, {}, false⟩
  | frame {trace : List Exchange} {c c' : Connection} {before : Replica} {now : PyFloat}
      {message : Option String} {replies : List Reply} (h : Serves limits trace c)
      (hopen : c.ended = false) (hothers : Relation.ReflTransGen Replica.Step c.crdt before)
      (hreceive : Connection.receive limits now message { c with crdt := before } = (c', replies))
      : Serves limits (trace ++ [⟨now, message, before, c'.crdt, replies⟩]) c'

theorem sound_of_steps (h : r.Sound)
    (hsteps : Relation.ReflTransGen Replica.Step r r') : r'.Sound ∧ r.nodes <+: r'.nodes := by
  induction hsteps with
  | refl => exact ⟨h, prefix_refl _⟩
  | tail _ hstep ih => exact ⟨ih.1.step hstep, ih.2.trans hstep.nodes_le⟩

structure Keeps (limits : Limits) (trace : List Exchange) (c : Connection) : Prop where
  sound : c.crdt.Sound
  resolved : c.ended = false → ∀ cid ∈ announcedIn trace,
    Dag.Complete c.crdt.parents cid ∨ cid ∈ c.session.frontier.getD []
  stored_le : (trace.map (·.stored)).sum ≤ c.session.nodesReceived
  nodes_le : c.session.nodesReceived ≤ limits.maxNodesPerSession
  accepted_le : (trace.map (·.acceptedBytes)).sum ≤ c.session.bytesReceived
  bytes_le : c.session.bytesReceived ≤ limits.maxBytesPerSession
  frames_eq : trace.length = c.session.framesReceived
  frames_le : c.session.framesReceived ≤ maxSessionFrames
  frames_lt : c.ended = false → c.session.framesReceived < maxSessionFrames

variable {trace : List Exchange} {c : Connection}

theorem Keeps.others (h : Keeps limits trace c)
    (hothers : Relation.ReflTransGen Replica.Step c.crdt before)
    : Keeps limits trace { c with crdt := before } := by
  obtain ⟨hsound, hle⟩ := sound_of_steps h.sound hothers
  refine { h with sound := hsound, resolved := ?_ }
  intro hopen cid hcid
  exact (h.resolved hopen cid hcid).imp_left (hsound.toIndexed.complete_mono hle)

structure Advances (limits : Limits) (trace : List Exchange) (e : Exchange) (c : Connection) : Prop
    where
  keeps : Keeps limits (trace ++ [e]) c
  sound : e.after.Sound
  verified : ∀ n ∈ e.after.nodes, n ∈ e.before.nodes ∨ n.verifyCid
  certified : (∃ n, .complete true n ∈ e.replies) →
    ∀ cid ∈ announcedIn (trace ++ [e]), Dag.Complete e.after.parents cid

theorem Keeps.rejected (h : Keeps limits trace c) (hopen : c.ended = false) (now : PyFloat)
    (msg : Option String) (text : String)
    : Advances limits trace ⟨now, msg, c.crdt, c.crdt, [.error text]⟩
      ⟨c.crdt, { c.session with framesReceived := c.session.framesReceived + 1 }, true⟩ where
  keeps := {
    sound := h.sound
    resolved := fun hended => Bool.noConfusion hended
    stored_le := by simpa [Exchange.stored] using h.stored_le
    nodes_le := h.nodes_le
    accepted_le := by
      simpa [Exchange.acceptedBytes, Exchange.isRejected] using h.accepted_le
    bytes_le := h.bytes_le
    frames_eq := by rw [length_append, h.frames_eq]; rfl
    frames_le := h.frames_lt hopen
    frames_lt := fun hended => Bool.noConfusion hended }
  sound := h.sound
  verified n hn := .inl hn
  certified := by
    rintro ⟨n, hn⟩
    simp at hn

theorem Keeps.receive (h : Keeps limits trace c) (hopen : c.ended = false)
    (hreceives : Receives limits now msg c c' replies)
    : Advances limits trace ⟨now, msg, c.crdt, c'.crdt, replies⟩ c' := by
  cases hreceives with
  | rejected text => exact h.rejected hopen now msg text
  | @handled text env outcome ended closing htext hbytes hdec hhandles hended hclosing =>
    subst htext
    have hbounded := hhandles.bounded h.sound
    have hframes := h.frames_lt hopen
    -- what was announced up to this frame
    have hannounced : ∀ cid, cid ∈ announcedIn (trace ++
        [⟨now, some text, c.crdt, outcome.crdt, outcome.reply.toList ++ closing⟩]) →
        Dag.Complete c.crdt.parents cid ∨ cid ∈ env.announced ∨
          cid ∈ c.session.frontier.getD [] := by
      intro cid hcid
      simp only [announcedIn, flatMap_append, mem_append, flatMap_singleton,
        Exchange.announced, Option.map_some, hdec] at hcid
      rcases hcid with hcid | hcid
      . exact (h.resolved hopen cid hcid).imp_right .inr
      . exact .inr (.inl hcid)
    have hcomplete : ∀ cid, Dag.Complete c.crdt.parents cid →
        Dag.Complete outcome.crdt.parents cid :=
      fun cid => hbounded.sound.toIndexed.complete_mono hbounded.nodes_le
    refine ⟨?_, hbounded.sound, hbounded.verified, ?_⟩
    . constructor
      . exact hbounded.sound
      . intro hopen' cid hcid
        rcases hannounced cid hcid with hcid | hcid
        . exact .inl (hcomplete cid hcid)
        . exact (hhandles.complete h.sound hcid (.inl (hended hopen').1)).imp_right And.right
      . have hold := h.stored_le
        have hnew := hbounded.stored_le
        have hgrown := hbounded.nodes_le.length_le
        rw [map_append, sum_append, map_singleton, sum_singleton]
        simp only [Exchange.stored] at hnew ⊢
        have hsum : (trace.map fun e => e.after.nodes.length - e.before.nodes.length).sum =
            (trace.map (·.stored)).sum := rfl
        omega
      . exact hbounded.budget_le h.nodes_le
      . have hold := h.accepted_le
        have hnew : Exchange.acceptedBytes
            ⟨now, some text, c.crdt, outcome.crdt, outcome.reply.toList ++ closing⟩ ≤
            utf8Size text := by
          unfold Exchange.acceptedBytes
          split
          . exact Nat.zero_le _
          . exact Nat.le_refl _
        rw [map_append, sum_append, map_singleton, sum_singleton, hbounded.bytesReceived]
        exact Nat.add_le_add hold hnew
      . rw [hbounded.bytesReceived]
        exact hbytes
      . rw [length_append, h.frames_eq, hbounded.framesReceived]
        rfl
      . rw [hbounded.framesReceived]
        exact hframes
      . intro hopen'
        have hleft := (hended hopen').2
        simp only [Session.exhausted, decide_eq_false_iff_not, not_or, not_le] at hleft
        exact hleft.1
    . rintro ⟨n, hn⟩ cid hcid
      have hreply : outcome.reply = some (.complete true n) := by
        rcases mem_append.mp hn with hn | hn
        . exact Option.mem_toList.mp hn
        . cases hclosing _ hn
      rcases hannounced cid hcid with hcid | hcid
      . exact hcomplete cid hcid
      . rcases hhandles.complete h.sound hcid (.inr ⟨n, hreply⟩) with hcid | ⟨hended', -⟩
        . exact hcid
        . rw [hhandles.over_of_complete hreply] at hended'
          cases hended'

theorem Keeps.start (h : crdt.Reached) : Keeps limits [] ⟨crdt, {}, false⟩ where
  sound := h.sound
  resolved := by simp [announcedIn]
  stored_le := by simp
  nodes_le := Nat.zero_le _
  accepted_le := by simp
  bytes_le := Nat.zero_le _
  frames_eq := rfl
  frames_le := Nat.zero_le _
  frames_lt _ := by
    show 0 < maxSessionFrames
    decide

theorem Serves.keeps (h : Serves limits trace c)
    : Keeps limits trace c ∧
      ∀ front e, front ++ [e] <+: trace → ∃ c, Advances limits front e c := by
  induction h with
  | start h =>
    refine ⟨.start h, ?_⟩
    intro front e hle
    simp at hle
  | @frame trace c c' before now msg replies h hopen hothers hreceive ih =>
    have hadvances : Advances limits trace ⟨now, msg, before, c'.crdt, replies⟩ c' :=
      (ih.1.others hothers).receive hopen (receives_of_eq hreceive)
    refine ⟨hadvances.keeps, ?_⟩
    intro front e hle
    rcases prefix_concat_iff.mp hle with heq | hle
    . obtain ⟨rfl, he⟩ := append_inj' heq rfl
      rw [cons.injEq] at he
      exact ⟨c', he.1 ▸ hadvances⟩
    . exact ih.2 front e hle

/--
Whatever a client sends in a session, the server certifies nothing that is not closed, it stores
verified nodes only, and it stays in its budgets of nodes, bytes and frames.
-/
theorem server_certifies_closed_frontiers {trace : List Exchange} {c : Connection}
    (h : Serves limits trace c)
    : (∀ front e, front ++ [e] <+: trace → (∃ n, .complete true n ∈ e.replies) →
        ∀ cid ∈ announcedIn (front ++ [e]), Dag.Complete e.after.parents cid ∧
          (cid ∈ e.after.causallyClosed ∨ e.after.HasCycle)) ∧
      (∀ e ∈ trace, ∀ n ∈ e.after.nodes, n ∈ e.before.nodes ∨ n.verifyCid) ∧
      (trace.map (·.stored)).sum ≤ limits.maxNodesPerSession ∧
      (trace.map (·.acceptedBytes)).sum ≤ limits.maxBytesPerSession ∧
      trace.length ≤ maxSessionFrames := by
  obtain ⟨hkeeps, hadvances⟩ := h.keeps
  refine ⟨?_, ?_, ?_, ?_, ?_⟩
  . intro front e hle hcompl cid hcid
    obtain ⟨c', hadvances⟩ := hadvances front e hle
    have hcid := hadvances.certified hcompl cid hcid
    exact ⟨hcid, hadvances.sound.toIndexed.closed_or_hasCycle hcid⟩
  . intro e he
    obtain ⟨front, back, rfl⟩ := append_of_mem he
    obtain ⟨c', hadvances⟩ := hadvances front e ⟨back, by simp⟩
    exact hadvances.verified
  . exact hkeeps.stored_le.trans hkeeps.nodes_le
  . exact hkeeps.accepted_le.trans hkeeps.bytes_le
  . rw [hkeeps.frames_eq]
    exact hkeeps.frames_le

end Gossip

namespace Gossip.Sample

open Merkle (Replica)
open Merkle.Sample
open scoped Apcc.Sample JsonText.Sample

def limits : Limits :=
  ⟨8192, maxSessionBytes⟩

def announcement : String :=
  "\x7b\"cids\":[\"" ++ childCid ++
    "\"],\"final\":true,\"page\":0,\"type\":\"frontier\",\"version\":1\x7d"

theorem utf8Size_announcement : utf8Size announcement ≤ 200 := by
  decide +kernel

theorem decodeEnvelope_announcement
    : decodeEnvelope (.finite 0) announcement = .ok (.frontier [childCid] 0 true) := by
  have hread : (match decodeEnvelope (.finite 0) announcement with
      | .ok (.frontier cids page final) => decide (cids = [childCid] ∧ page = 0 ∧ final = true)
      | .ok _ => false
      | .error _ => false) = true := by
    decide +kernel
  split at hread
  . next henv =>
    obtain ⟨rfl, rfl, rfl⟩ := of_decide_eq_true hread
    exact henv
  all_goals cases hread

def exchange : Exchange :=
  ⟨.finite 0, some announcement, replica, replica, [.complete true 0]⟩

theorem serves_announcement : ∃ c, Serves limits [exchange] c := by
  have hclosed : childCid ∈ replica.causallyClosed :=
    (reached_replica.sound.closed_or_hasCycle
      (complete_replica (by simp [cids_replica]))).resolve_right not_hasCycle_replica
  have hmiss : replica.missingAncestry [childCid] maxFetchCids maxAncestryScan = .ok [] := by
    simp [Replica.missingAncestry, Replica.sortedSet, Replica.searchLoop, hclosed, maxFetchCids,
      maxAncestryScan]
  have hbytes : ¬limits.maxBytesPerSession < 0 + utf8Size announcement := by
    have hsize := utf8Size_announcement
    have hlimit : limits.maxBytesPerSession = 32 * 1024 * 1024 := rfl
    omega
  have hreceive : Connection.receive limits (.finite 0) (some announcement) ⟨replica, {}, false⟩ =
      (⟨replica,
        { frontier := some [childCid], frontierIsFinal := true, expectedPage := 1,
          framesReceived := 1, bytesReceived := 0 + utf8Size announcement }, true⟩,
        [.complete true 0]) := by
    simp only [Connection.receive, handleFrame, decodeEnvelope_announcement, handleEnvelope,
      Apcc.raiseIf, Apcc.ok_bind, resolveFrontierPage, hmiss]
    rw [if_neg (by simpa using hbytes)]
    rfl
  exact ⟨_, Serves.frame (.start reached_replica) rfl .refl hreceive⟩

theorem server_certifies_announcement
    : .complete true 0 ∈ exchange.replies ∧ childCid ∈ announcedIn [exchange] ∧
      Dag.Complete exchange.after.parents childCid ∧ childCid ∈ exchange.after.causallyClosed := by
  obtain ⟨_, h⟩ := serves_announcement
  have hreply : .complete true 0 ∈ exchange.replies := List.mem_singleton_self _
  have hannounced : childCid ∈ announcedIn [exchange] := by
    simp [announcedIn, Exchange.announced, exchange, decodeEnvelope_announcement,
      Envelope.announced]
  obtain ⟨hcompl, hclosed⟩ := (server_certifies_closed_frontiers h).1 [] exchange
    (List.prefix_refl _) ⟨0, hreply⟩ childCid hannounced
  exact ⟨hreply, hannounced, hcompl, hclosed.resolve_right not_hasCycle_replica⟩

end Gossip.Sample
