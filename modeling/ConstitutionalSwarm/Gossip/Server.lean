import ConstitutionalSwarm.Gossip.Codec

namespace Gossip

open Raising
open Merkle (DAGNode Replica)

structure Limits where
  maxNodesPerSession : ℕ
  maxBytesPerSession : ℕ

inductive Reply where
  | ack (ok : Bool) (nodesReceived : Option ℕ) (message : Option String)
  | fetch (cids : List String) (budget : ℕ)
  | complete (complete : Bool) (nodesReceived : ℕ)
  | error (message : String)
  deriving DecidableEq

structure Session where
  frontier : Option (List String) := none
  frontierIsFinal : Bool := false
  frontierScanTruncated : Bool := false
  expectedPage : ℕ := 0
  nodesReceived : ℕ := 0
  bytesReceived : ℕ := 0
  workRounds : ℕ := 0
  framesReceived : ℕ := 0

structure Outcome where
  crdt : Replica
  session : Session
  reply : Option Reply
  ended : Bool

section Session

variable (limits : Limits) (crdt : Replica)

def resolveFrontierPage (s : Session) : Py Outcome :=
  match s.frontier with
  | none => reject "sender completion without an active frontier page"
  | some frontier =>
    if s.frontierScanTruncated then .ok ⟨crdt, s, some (.complete false s.nodesReceived), true⟩
    else match crdt.missingAncestry frontier maxFetchCids maxAncestryScan with
      | .error checkpoints =>
        if limits.maxNodesPerSession ≤ s.nodesReceived ∨ checkpoints = [] then
          .ok ⟨crdt, s, some (.complete false s.nodesReceived), true⟩
        else
          .ok ⟨crdt, { s with frontierScanTruncated := true },
            some (.fetch checkpoints (limits.maxNodesPerSession - s.nodesReceived)), false⟩
      | .ok [] =>
        if s.frontierIsFinal then .ok ⟨crdt, s, some (.complete true s.nodesReceived), true⟩
        else
          .ok ⟨crdt,
            { s with frontier := none, frontierIsFinal := false, frontierScanTruncated := false },
            some (.ack true none none), false⟩
      | .ok missing =>
        if limits.maxNodesPerSession ≤ s.nodesReceived then
          .ok ⟨crdt, s, some (.complete false s.nodesReceived), true⟩
        else
          .ok ⟨crdt, s, some (.fetch missing (limits.maxNodesPerSession - s.nodesReceived)), false⟩

variable [Apcc.Platform] [Interpreter]

def handleEnvelope (s : Session) : Envelope → Py Outcome
  | .batch nodes => do
    raiseIf (limits.maxNodesPerSession < s.nodesReceived + nodes.length)
      (.valueError "node session budget exceeded")
    if nodes.any fun node => !node.verifyCid then
      return ⟨crdt, s, some (.ack false none (some "invalid CID")), false⟩
    return ⟨(crdt.mergeVerifiedNodes nodes).1,
      { s with nodesReceived := s.nodesReceived + nodes.length },
      some (.ack true (some nodes.length) none), false⟩
  | .frontier cids page final => do
    raiseIf s.frontier.isSome (.valueError "previous frontier page is not resolved")
    raiseIf (page ≠ s.expectedPage) (.valueError "frontier pages must be contiguous")
    raiseIf (maxFrontierPages ≤ s.expectedPage) (.valueError "frontier page limit exceeded")
    resolveFrontierPage limits crdt
      { s with
        frontier := some cids, frontierIsFinal := final, expectedPage := s.expectedPage + 1 }
  | .nodes nodes => do
    raiseIf s.frontier.isNone (.valueError "nodes received without an active frontier page")
    raiseIf (limits.maxNodesPerSession < s.nodesReceived + nodes.length)
      (.valueError "node session budget exceeded")
    raiseIf (nodes.any fun node => !node.verifyCid) (.valueError "node CID verification failed")
    return ⟨(crdt.mergeVerifiedNodes nodes).1,
      { s with
        workRounds := s.workRounds + 1, nodesReceived := s.nodesReceived + nodes.length }, none,
      false⟩
  | .complete complete _ => do
    raiseIf (!complete) (.valueError "sender completion marker must be true")
    resolveFrontierPage limits crdt { s with workRounds := s.workRounds + 1 }
  | .fetch _ _ => reject "unexpected client message: fetch"
  | .ack _ _ _ => reject "unexpected client message: ack"
  | .error _ => reject "unexpected client message: error"

def handleFrame (now : PyFloat) (s : Session) : Option String → Py Outcome
  | none => reject "gossip frames must be text"
  | some message => do
    let bytesReceived := s.bytesReceived + utf8Size message
    raiseIf (limits.maxBytesPerSession < bytesReceived)
      (.valueError "gossip session byte budget exceeded")
    let envelope ← decodeEnvelope now message
    handleEnvelope limits crdt { s with bytesReceived } envelope

def Session.exhausted (s : Session) : Bool :=
  maxSessionFrames ≤ s.framesReceived ∨ maxProtocolRounds ≤ s.workRounds ∧ s.frontier = none

structure Connection where
  crdt : Replica
  session : Session
  ended : Bool

def Connection.receive (now : PyFloat) (message : Option String) (c : Connection)
    : Connection × List Reply :=
  let s := { c.session with framesReceived := c.session.framesReceived + 1 }
  match handleFrame limits c.crdt now s message with
  | .error error =>
    (⟨c.crdt, s, true⟩, [.error (String.ofList ((errorText error).toList.take 1024))])
  | .ok outcome =>
    if !outcome.ended && outcome.session.exhausted then
      (⟨outcome.crdt, outcome.session, true⟩,
        outcome.reply.toList ++ [.complete false outcome.session.nodesReceived])
    else (⟨outcome.crdt, outcome.session, outcome.ended⟩, outcome.reply.toList)

end Session

end Gossip
