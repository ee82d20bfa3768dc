import ConstitutionalSwarm.Data.Worklist
import ConstitutionalSwarm.Ipc.Frame
import Mathlib.Algebra.Order.Ring.Rat
import Mathlib.Data.List.ReduceOption

namespace Ipc

structure Linked where
  busy : Bool
  cause : Option ℕ
  context : Option ℕ

-- The context is pushed after the cause, so it is popped first.
def expand (e : Linked) : Except Unit (Unit × List ℕ) :=
  if e.busy then .ok ((), [e.context, e.cause].reduceOption) else .error ()

def isTransientContention (exceptions : List (ℕ × Linked)) (cause : ℕ) : Bool :=
  (Worklist.run exceptions expand [] [cause]).isOk

inductive Recovery where
  | returned (deliveredCount pendingCount : String)
  | raised (exceptions : List (ℕ × Linked)) (cause : ℕ)

inductive MonitorState where
  | ok
  | stalled
  | backingOff
  | escalated

structure Monitor where
  state : MonitorState
  failures : ℕ
  nextDue : ℚ

def outboxRecoveryIntervalS : ℚ := 1

def outboxRecoveryMaxBackoffS : ℚ := 30

def outboxRecoveryEscalateAfter : ℕ := 10

def floatLimit : ℕ := 2 ^ 1024

-- A power of two is a double or too large for one; other integers are never converted here.
def toFloat (n : ℕ) : Except Raised ℚ :=
  if n < floatLimit then .ok n
  else .error ⟨["OverflowError", "ArithmeticError", "Exception"],
    "int too large to convert to float", [.str "int too large to convert to float"]⟩

namespace Monitor

variable (m : Monitor) (clock : ℚ)

def requestRun : Monitor :=
  { m with nextDue := min m.nextDue clock }

def due : Prop :=
  m.nextDue ≤ clock

instance (m : Monitor) (clock : ℚ) : Decidable (m.due clock) :=
  inferInstanceAs (Decidable (_ ≤ _))

def recordTransient : Except Raised Monitor := do
  let factor ← toFloat (2 ^ m.failures)
  return {
    failures := m.failures + 1
    nextDue := clock + min (outboxRecoveryIntervalS * factor) outboxRecoveryMaxBackoffS
    state := if outboxRecoveryEscalateAfter ≤ m.failures + 1 then .escalated else .backingOff }

def recordResult (deliveredCount pendingCount : String) (clock : ℚ) : Monitor :=
  if deliveredCount ≠ "0" ∨ pendingCount = "0" then ⟨.ok, 0, clock + outboxRecoveryIntervalS⟩
  else { m with state := .stalled, nextDue := clock + outboxRecoveryIntervalS }

def run : Recovery → Except Raised Monitor
  | .returned deliveredCount pendingCount => .ok (m.recordResult deliveredCount pendingCount clock)
  | .raised exceptions cause =>
    if isTransientContention exceptions cause then m.recordTransient clock
    else .error ⟨["AuthorityOutboxRecoveryError", "RuntimeError", "Exception"],
      "outbox_recovery_failed", [.str "outbox_recovery_failed"]⟩

def runIfDue (recovery : Recovery) : Except Raised Monitor :=
  if m.due clock then m.run clock recovery else .ok m

end Monitor

inductive Channel where
  | execution
  | admin
  | statusSigning
  deriving DecidableEq

namespace Channel

def name : Channel → String
  | .execution => "execution"
  | .admin => "admin"
  | .statusSigning => "status-signing"

def unknownOperation : Channel → String
  | .execution => "unknown_operation"
  | .admin => "unknown_admin_operation"
  | .statusSigning => "unknown_status_signing_operation"

end Channel

structure Session where
  sign : Bytes → Bytes
  session : String
  authorityPid : ℕ
  maxFrameBytes : ℕ
  protocolErrorCodes : List String
  pid_fits : PyInt.fits authorityPid = true

def requestErrorCode (codes : List String) (e : Raised) (channel : Channel) : String :=
  let specific (fallback : String) : String :=
    if e.isA ["KeyError"] then fallback
    else
      match e.args with
      | .str reason :: _ => if codes.contains reason then reason else fallback
      | _ => fallback
  if e.isA ["LookupError"] then specific channel.unknownOperation
  else if e.isA ["GovernanceBypassDenied"] then specific "governance_denied"
  else if e.isA ["PermissionError"] then specific "permission_denied"
  else if e.isA ["TypeError", "ValueError"] then specific "invalid_request"
  else "internal_error"

inductive Received where
  | request (value : PyValue)
  | invalid (code : String)
  | broken

variable (s : Session) (a : Authority) (channel : Channel)

def Session.recvFrame [Interpreter] (arrived : Bytes) : Received :=
  let size := (arrived.take 4).foldl (fun n byte => n * 256 + byte.toNat) 0
  if arrived.length < 4 then .broken
  else if size > s.maxFrameBytes then .invalid "frame_too_large"
  else if arrived.length < 4 + size then .broken
  else
    match StrictJson.loads s.maxFrameBytes 64 ((arrived.drop 4).take size) with
    | some value => .request value
    | none => .invalid "malformed_json"

section Loop

theorem toFloat_two_pow (n : ℕ) : (∃ x, toFloat (2 ^ n) = .ok x) ↔ n < 1024 := by
  have hpow (m : ℕ) : 2 ^ n < 2 ^ m ↔ n < m := Nat.pow_lt_pow_iff_right one_lt_two
  have hlimit : 2 ^ n < floatLimit ↔ n < 1024 := hpow 1024
  unfold toFloat
  by_cases h : n < 1024
  . rw [if_pos (hlimit.mpr h)]
    exact iff_of_true ⟨_, rfl⟩ h
  . rw [if_neg (mt hlimit.mp h)]
    exact iff_of_false (fun ⟨_, hx⟩ => nomatch hx) h

variable [Apcc.Platform] [Interpreter]

def digest (value : PyValue) : Except Raised String := do
  return Apcc.sha256Digest (← canonicalJson value)

inductive Answer where
  | result (value : PyValue)
  | error (code message : String)

def Answer.fields : Answer → Except Raised (List (String × PyValue))
  | .result value => do
    return [("result_digest", .str (← digest value)), ("error_digest", .none), ("result", value),
      ("error", .none)]
  | .error code message => do
    let error := .dict [("code", .str code), ("message", .str message)]
    return [("result_digest", .none), ("error_digest", .str (← digest error)), ("result", .none),
      ("error", error)]

def Answer.dumpable : Answer → Bool
  | .result value => PyJson.dumpable value
  | .error _ _ => true

def Session.signedResponse (sequence : ℕ) (requestDigest : String) (answer : Answer)
    : Except Raised PyValue := do
  let body := [("protocol", .str "apcc-authority-ipc-v1"), ("session", .str s.session),
    ("channel", .str channel.name), ("sequence", .int sequence),
    ("authority_pid", .int s.authorityPid), ("request_digest", .str requestDigest)] ++
    (← answer.fields)
  return .dict (body ++ [("signature",
    .str (Base64.encode (s.sign (← canonicalJson (.dict body)))))])

structure Authority where
  isOpen : Channel → Bool
  sequences : Channel → ℕ
  monitor : Monitor

structure Turn where
  channel : Channel
  arrived : Bytes
  handler : Except Raised PyValue
  requested : Option ℚ
  /-- Whether the socket takes what is written, the first time and the second. -/
  writes : Bool
  rewrites : Bool
  clock : ℚ
  recovery : Recovery

inductive Event where
  | readable (turn : Turn)
  | pass (clock : ℚ) (recovery : Recovery)

namespace Authority

def close : Authority :=
  { a with isOpen := Function.update a.isOpen channel false }

def advance : Authority :=
  { a with sequences := Function.update a.sequences channel (a.sequences channel + 1) }

def request (t : Turn) : Authority :=
  { a with monitor := t.requested.elim a.monitor a.monitor.requestRun }

def offer (t : Turn) (requestDigest : String) (answer : Answer) : Except Raised PyValue := do
  let response ← s.signedResponse t.channel (a.sequences t.channel) requestDigest answer
  let _ ← sendFrame s.maxFrameBytes response
  return response

-- Whatever is raised here is a `ValueError`, which the handler catches.
def sendInvalid (t : Turn) (code : String) : Authority × List PyValue :=
  let offered := do
    offer s a t (← digest (.dict [("invalid_frame", .str code),
      ("sequence", .int (a.sequences t.channel))])) (.error code "")
  match offered with
  | .ok response =>
    if t.writes then (if code = "frame_too_large" then a.close t.channel else a, [response])
    else (a.close t.channel, [])
  | .error _ => (a.close t.channel, [])

def Turn.answer (t : Turn) : Answer :=
  match t.handler with
  | .ok value => .result value
  | .error e =>
    let code := requestErrorCode s.protocolErrorCodes e t.channel
    .error code code

def sendAnswer (t : Turn) (value : PyValue) : Except Raised (Authority × List PyValue) := do
  let requestDigest ← digest value
  let response ← s.signedResponse t.channel (a.sequences t.channel) requestDigest (Turn.answer s t)
  match sendFrame s.maxFrameBytes response with
  | .ok _ => return if t.writes then (a, [response]) else (a.close t.channel, [])
  | .error e =>
    if e.isA ["FrameSizeError"] then
      match offer s a t requestDigest (.error "response_too_large" "response_too_large") with
      | .ok small => return if t.rewrites then (a, [small]) else (a.close t.channel, [])
      | .error _ => return (a.close t.channel, [])
    else throw e

def recover (clock : ℚ) (recovery : Recovery) : Except Raised Authority := do
  let monitor ← a.monitor.runIfDue clock recovery
  return { a with monitor }

def step : Event → Except Raised (Authority × List PyValue)
  | .pass clock recovery => do return (← a.recover clock recovery, [])
  | .readable t =>
    match s.recvFrame t.arrived with
    | .broken => .ok (a.close t.channel, [])
    | .invalid code => .ok (sendInvalid s (a.advance t.channel) t code)
    | .request value => do
      let (a, sent) ← sendAnswer s ((a.advance t.channel).request t) t value
      return (← a.recover t.clock t.recovery, sent)

structure Answered (s : Session) (a : Authority) (t : Turn) (a' : Authority) (sent : List PyValue)
    : Prop where
  answered : s.recvFrame t.arrived = .broken ∨ a'.isOpen t.channel = false ∨
    ∃ requestDigest answer response, sent = [response] ∧
      s.signedResponse t.channel (a.sequences t.channel + 1) requestDigest answer = .ok response ∧
      ∀ value, s.recvFrame t.arrived = .request value → digest value = .ok requestDigest
  once : sent.length ≤ 1
  advances : s.recvFrame t.arrived ≠ .broken →
    a'.sequences t.channel = a.sequences t.channel + 1
  isOpen : ∀ c, c ≠ t.channel → a'.isOpen c = a.isOpen c
  sequences : ∀ c, c ≠ t.channel → a'.sequences c = a.sequences c

def Event.Answered (s : Session) (a : Authority) (e : Event) (a' : Authority)
    (sent : List PyValue) : Prop :=
  match e with
  | .readable t => Authority.Answered s a t a' sent
  | .pass _ _ => sent = [] ∧ a'.isOpen = a.isOpen ∧ a'.sequences = a.sequences

end Authority

/-- Every exception of a chain is `SQLITE_BUSY`. -/
def Busy (exceptions : List (ℕ × Linked)) (cause : ℕ) : Prop :=
  ∀ k, Relation.ReflTransGen (Worklist.Refers exceptions expand) cause k →
    ∀ e, exceptions.lookup k = some e → e.busy = true

omit [Apcc.Platform] [Interpreter] in
theorem isTransientContention_iff {exceptions : List (ℕ × Linked)} {cause : ℕ}
    : isTransientContention exceptions cause ↔ Busy exceptions cause := by
  rw [isTransientContention, Worklist.run_isOk_iff]
  simp only [List.mem_singleton, forall_eq, Busy, Worklist.Fails, expand]
  refine forall₂_congr fun k _ => ?_
  constructor
  . intro h e he
    by_contra hbusy
    exact h ⟨e, (), he, by simp [hbusy]⟩
  . rintro h ⟨e, _, he, herror⟩
    simp [h e he] at herror

def Recovery.Taken (failures : ℕ) : Recovery → Prop
  | .returned _ _ => True
  | .raised exceptions cause => Busy exceptions cause ∧ failures < 1024

omit [Apcc.Platform] [Interpreter] in
theorem Monitor.run_iff (m : Monitor) (clock : ℚ) (recovery : Recovery)
    : (∃ m', m.run clock recovery = .ok m') ↔ recovery.Taken m.failures := by
  cases recovery with
  | returned _ _ => exact iff_of_true ⟨_, rfl⟩ trivial
  | raised exceptions cause =>
    rw [Recovery.Taken, ← isTransientContention_iff, ← toFloat_two_pow, Monitor.run]
    by_cases hbusy : isTransientContention exceptions cause
    . rw [if_pos hbusy, and_iff_right hbusy, recordTransient]
      cases toFloat (2 ^ m.failures) with
      | error e => exact iff_of_false (fun ⟨_, hm⟩ => nomatch hm) (fun ⟨_, hx⟩ => nomatch hx)
      | ok x => exact iff_of_true ⟨_, rfl⟩ ⟨_, rfl⟩
    . rw [if_neg hbusy]
      exact iff_of_false (fun ⟨_, hm⟩ => nomatch hm) fun h => hbusy h.1

namespace Authority

variable {s : Session} {a a' : Authority} {t : Turn} {sent : List PyValue}

variable {clock : ℚ} {recovery : Recovery} {b : Authority}

omit [Apcc.Platform] [Interpreter] in
theorem recover_iff
    : (∃ a', a.recover clock recovery = .ok a') ↔
      (a.monitor.due clock → recovery.Taken a.monitor.failures) := by
  rw [recover, Monitor.runIfDue]
  by_cases hdue : a.monitor.due clock
  . rw [if_pos hdue, imp_iff_right hdue, ← Monitor.run_iff a.monitor clock]
    cases a.monitor.run clock recovery with
    | error e => exact iff_of_false (fun ⟨_, h⟩ => nomatch h) (fun ⟨_, h⟩ => nomatch h)
    | ok m => exact iff_of_true ⟨_, rfl⟩ ⟨_, rfl⟩
  . rw [if_neg hdue]
    exact iff_of_true ⟨_, rfl⟩ fun h => absurd h hdue

variable {channel : Channel} {seq : ℕ} {rdig : String} {answer : Answer} {response : PyValue}

structure Replied (s : Session) (a : Authority) (t : Turn) (requestDigest : String)
    (a' : Authority) (sent : List PyValue) : Prop where
  answered : a'.isOpen t.channel = false ∨ ∃ answer response, sent = [response] ∧
    s.signedResponse t.channel (a.sequences t.channel) requestDigest answer = .ok response
  once : sent.length ≤ 1
  kept : a' = a ∨ a' = a.close t.channel

theorem Replied.monitor (h : Replied s a t rdig a' sent) : a'.monitor = a.monitor := by
  rcases h.kept with heq | heq
  . rw [heq]
  . rw [heq]
    rfl

def Serves (s : Session) : Authority → List Event → Prop
  | _, [] => True
  | a, e :: events => ∃ a' sent, step s a e = .ok (a', sent) ∧ Event.Answered s a e a' sent ∧
      Serves s a' events

end Authority

end Loop

namespace Sample

open scoped Apcc.Sample JsonText.Sample

def session : Session :=
  ⟨fun _ => [], "session", 7, 65536, [], by decide⟩

def started : Authority :=
  ⟨fun _ => true, fun _ => 0, ⟨.ok, 0, 0⟩⟩

end Sample

end Ipc
