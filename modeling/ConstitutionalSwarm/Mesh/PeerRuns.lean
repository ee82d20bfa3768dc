import ConstitutionalSwarm.Mesh.RemotePeer
import Mathlib.Tactic.Linarith

namespace Mesh.Peer

open Raising List

theorem cacheOf_set (caches : NonceCaches) (signer signer' : String) (cache : List (String × ℚ))
    : cacheOf (Assoc.set signer cache caches) signer' =
      if signer' = signer then cache else cacheOf caches signer' := by
  rw [cacheOf, Assoc.lookup_set]
  split <;> rfl

variable [Platform] {peer : Peer} {s s' : State} {a : Action}

inductive Stepped (peer : Peer) (s : State) : Action → State → Prop where
  | tick {now : ℚ} (h : s.clock ≤ now) : Stepped peer s (.tick now) { s with clock := now }
  | verify (request : RemoteVoteRequest) (intact : Bool) : Stepped peer s (.verify request intact)
      { s with calls := s.calls ++ [peer.newCall intact request s.clock] }
  | accept {i : ℕ} {request : RemoteVoteRequest} {now : ℚ} {assignment : SignedAssignment}
      {cache : List (String × ℚ)} {refusal : Option ReplayCache.Refusal}
      (hcall : s.calls[i]? = some ⟨request, .verified now assignment⟩)
      (haccept : ReplayCache.accept maxNoncesPerSigner
        (cacheOf s.caches request.requestSignerPublicKey) request.nonce now
        (peer.expiresAt request now) = (cache, refusal)) : Stepped peer s (.accept i)
      { s with
        caches := Assoc.set request.requestSignerPublicKey cache s.caches
        calls := s.calls.set i ⟨request, settledPhase request now assignment refusal⟩
        sections := s.sections ++ [(request.requestSignerPublicKey, now)] }
  | answer {i : ℕ} {request : RemoteVoteRequest} {now : ℚ} {assignment : SignedAssignment}
      {phase : Phase} (hcall : s.calls[i]? = some ⟨request, .admitted now assignment⟩)
      (hphase : phase.admittedAt = some now) (intact : Bool) : Stepped peer s (.answer i intact)
      { s with calls := s.calls.set i ⟨request, phase⟩ }

theorem stepped (h : peer.step s a = .ok s') : Stepped peer s a s' := by
  cases a with
  | tick now =>
    simp only [step] at h
    split at h
    . next hle =>
      cases h
      exact .tick hle
    . cases h
  | verify request intact =>
    cases h
    exact .verify request intact
  | accept i =>
    simp only [step] at h
    split at h
    . next hcall =>
      cases h
      exact .accept hcall rfl
    . cases h
  | answer i intact =>
    simp only [step] at h
    split at h
    . next hcall =>
      cases h
      refine .answer hcall ?_ intact
      unfold answeredPhase
      split <;> rfl
    . cases h

def Bounded (s : State) : Prop :=
  ∀ signer, (cacheOf s.caches signer).length ≤ maxNoncesPerSigner

theorem bounded_step (h : peer.step s a = .ok s') (hs : Bounded s) : Bounded s' := by
  cases stepped h with
  | tick => exact hs
  | verify => exact hs
  | answer => exact hs
  | accept hcall haccept =>
    intro signer
    rw [cacheOf_set]
    split
    . exact ReplayCache.length_le_of_accept haccept (hs _)
    . exact hs signer

def SameNonce (r r' : RemoteVoteRequest) : Prop :=
  r.requestSignerPublicKey = r'.requestSignerPublicKey ∧ r.nonce = r'.nonce

/--
The lock is entered with the latest clock reading so far, and a nonce that was admitted before comes
with a timestamp that does not lie beyond that admission.
-/
def Orderly (s : State) : Action → Prop
  | .accept i => ∀ request now assignment, s.calls[i]? = some ⟨request, .verified now assignment⟩ →
      (∀ t, (request.requestSignerPublicKey, t) ∈ s.sections → t ≤ now) ∧
      ∀ c ∈ s.calls, ∀ first, c.phase.admittedAt = some first → SameNonce request c.request →
        request.timestamp ≤ max first c.request.timestamp
  | _ => True

structure Inv (peer : Peer) (s : State) : Prop where
  fresh : ∀ c ∈ s.calls, ∀ now assignment, c.phase = .verified now assignment →
    now ≤ c.request.timestamp + peer.replayWindowSeconds
  remembered : ∀ c ∈ s.calls, ∀ now, c.phase.admittedAt = some now →
    (c.request.nonce, peer.expiresAt c.request now) ∈
      cacheOf s.caches c.request.requestSignerPublicKey ∨
    ∃ t, (c.request.requestSignerPublicKey, t) ∈ s.sections ∧ peer.expiresAt c.request now < t
  unique : ∀ (i j : ℕ) (c d : Call), s.calls[i]? = some c → s.calls[j]? = some d →
    c.phase.admittedAt.isSome = true → d.phase.admittedAt.isSome = true →
    SameNonce c.request d.request → i = j

theorem inv_init (clock : ℚ) : Inv peer (init clock) where
  fresh := by simp [init]
  remembered := by simp [init]
  unique := by simp [init]

variable {request : RemoteVoteRequest} {now : ℚ} {assignment : SignedAssignment} {i : ℕ}

theorem newCall_fresh (h : (peer.newCall intact request clock).phase = .verified now assignment)
    : now ≤ request.timestamp + peer.replayWindowSeconds := by
  unfold newCall at h
  dsimp only at h
  split at h
  . next hver =>
    obtain ⟨rfl, rfl⟩ := Phase.verified.inj h
    simp only [verifyRequest, RemoteVoteRequest.verify, bind_eq_ok, exists_unit, raiseIf_eq_ok,
      decide_eq_false_iff_not, not_lt, pure_eq_ok] at hver
    obtain ⟨_, -, ⟨-, -, -, hwindow, -⟩, -⟩ := hver
    have := (abs_le.mp hwindow).2
    linarith
  . cases h

theorem admittedAt_newCall (intact : Bool) (request : RemoteVoteRequest) (clock : ℚ)
    : (peer.newCall intact request clock).phase.admittedAt = none := by
  unfold newCall
  dsimp only
  split <;> rfl

theorem admittedAt_settledPhase
    (h : (settledPhase request now assignment refusal).admittedAt = some first)
    : refusal = none ∧ now = first := by
  cases refusal with
  | none => exact ⟨rfl, Option.some.inj h⟩
  | some refusal => cases h

theorem getElem?_set_cases {j : ℕ} {calls : List Call} {x c : Call}
    (h : (calls.set i x)[j]? = some c) : (j = i ∧ c = x) ∨ calls[j]? = some c := by
  rw [getElem?_set] at h
  split at h
  . next hij =>
    split at h
    . exact .inl ⟨hij.symm, (Option.some.inj h).symm⟩
    . cases h
  . exact .inr h

section Accept

variable {cache : List (String × ℚ)} {refusal : Option ReplayCache.Refusal} (hs : Inv peer s)
  (horderly : Orderly s (.accept i))
  (hcall : s.calls[i]? = some ⟨request, .verified now assignment⟩)
  (haccept : ReplayCache.accept maxNoncesPerSigner
    (cacheOf s.caches request.requestSignerPublicKey) request.nonce now
    (peer.expiresAt request now) = (cache, refusal))

include hs horderly hcall haccept

theorem not_sameNonce_of_accept (hadmitted : refusal = none) (hc : c ∈ s.calls)
    (hc' : c.phase.admittedAt.isSome) : ¬SameNonce request c.request := by
  subst hadmitted
  intro hsame
  obtain ⟨first, hfirst⟩ := Option.isSome_iff_exists.mp hc'
  obtain ⟨hlatest, hstamp⟩ := horderly request now assignment hcall
  -- the first admission has expired for this call, so this call is too late for its own timestamp
  have hexpired : peer.expiresAt c.request first < now := by
    obtain hmem | ⟨t, ht, hlt⟩ := hs.remembered c hc first hfirst
    . rw [← hsame.1, ← hsame.2] at hmem
      exact ReplayCache.lt_of_accept haccept hmem
    . rw [← hsame.1] at ht
      exact lt_of_lt_of_le hlt (hlatest t ht)
  have hfresh := hs.fresh _ (mem_of_getElem? hcall) now assignment rfl
  have hwithin := hstamp c hc first hfirst hsame
  unfold expiresAt at hexpired
  dsimp only at hfresh
  linarith

theorem inv_accept
    : Inv peer { s with
        caches := Assoc.set request.requestSignerPublicKey cache s.caches
        calls := s.calls.set i ⟨request, settledPhase request now assignment refusal⟩
        sections := s.sections ++ [(request.requestSignerPublicKey, now)] } where
  fresh := by
    intro c hc now' assignment' hphase
    rcases mem_or_eq_of_mem_set hc with hc | rfl
    . exact hs.fresh c hc now' assignment' hphase
    . cases refusal <;> cases hphase
  remembered := by
    intro c hc first hfirst
    dsimp only
    rw [cacheOf_set]
    rcases mem_or_eq_of_mem_set hc with hc | rfl
    . obtain hmem | ⟨t, ht, hlt⟩ := hs.remembered c hc first hfirst
      . split
        . next hsigner =>
          rw [hsigner] at hmem ⊢
          obtain hkept | hswept := ReplayCache.mem_or_lt_of_accept haccept hmem
          . exact .inl hkept
          . exact .inr ⟨now, by simp, hswept⟩
        . exact .inl hmem
      . exact .inr ⟨t, mem_append_left _ ht, hlt⟩
    . obtain ⟨rfl, rfl⟩ := admittedAt_settledPhase hfirst
      rw [if_pos rfl]
      exact .inl (ReplayCache.mem_of_accept haccept)
  unique := by
    -- an old call with the nonce of the call that was just admitted contradicts the order
    have hfirst : (settledPhase request now assignment refusal).admittedAt.isSome = true →
        ∀ c ∈ s.calls, c.phase.admittedAt.isSome = true → ¬SameNonce request c.request := by
      intro hadmitted c hc hc'
      obtain ⟨first, hphase⟩ := Option.isSome_iff_exists.mp hadmitted
      exact not_sameNonce_of_accept hs horderly hcall haccept (admittedAt_settledPhase hphase).1
        hc hc'
    intro j k c d hc hd hc' hd' hsame
    rcases getElem?_set_cases hc with ⟨rfl, rfl⟩ | hold <;>
      rcases getElem?_set_cases hd with ⟨rfl, rfl⟩ | hold'
    . rfl
    . exact absurd hsame (hfirst hc' d (mem_of_getElem? hold') hd')
    . exact absurd ⟨hsame.1.symm, hsame.2.symm⟩ (hfirst hd' c (mem_of_getElem? hold) hc')
    . exact hs.unique j k c d hold hold' hc' hd' hsame

end Accept

theorem inv_answer {phase : Phase} (hs : Inv peer s)
    (hcall : s.calls[i]? = some ⟨request, .admitted now assignment⟩)
    (hphase : phase.admittedAt = some now)
    : Inv peer { s with calls := s.calls.set i ⟨request, phase⟩ } where
  fresh := by
    intro c hc now' assignment' hver
    rcases mem_or_eq_of_mem_set hc with hc | rfl
    . exact hs.fresh c hc now' assignment' hver
    . rw [show phase = .verified now' assignment' from hver] at hphase
      cases hphase
  remembered := by
    intro c hc first hfirst
    rcases mem_or_eq_of_mem_set hc with hc | rfl
    . exact hs.remembered c hc first hfirst
    . obtain rfl : now = first := Option.some.inj (hphase.symm.trans hfirst)
      exact hs.remembered _ (mem_of_getElem? hcall) now rfl
  unique := by
    -- the call was admitted before with the same request
    have hold : ∀ (j : ℕ) (c : Call), (s.calls.set i ⟨request, phase⟩)[j]? = some c →
        c.phase.admittedAt.isSome = true → ∃ c', s.calls[j]? = some c' ∧
          c'.request = c.request ∧ c'.phase.admittedAt.isSome := by
      intro j c hc hadmitted
      rcases getElem?_set_cases hc with ⟨rfl, rfl⟩ | hc
      . exact ⟨_, hcall, rfl, rfl⟩
      . exact ⟨c, hc, rfl, hadmitted⟩
    intro j k c d hc hd hc' hd' hsame
    obtain ⟨c₀, hc₀, hreq, hadmitted⟩ := hold j c hc hc'
    obtain ⟨d₀, hd₀, hreq', hadmitted'⟩ := hold k d hd hd'
    rw [← hreq, ← hreq'] at hsame
    exact hs.unique j k c₀ d₀ hc₀ hd₀ hadmitted hadmitted' hsame

theorem inv_step (horderly : Orderly s a) (h : peer.step s a = .ok s') (hs : Inv peer s)
    : Inv peer s' := by
  cases stepped h with
  | tick => exact ⟨hs.fresh, hs.remembered, hs.unique⟩
  | verify request intact =>
    have hnew : (peer.newCall intact request s.clock).phase.admittedAt = none :=
      admittedAt_newCall intact request s.clock
    refine ⟨?_, ?_, ?_⟩
    . intro c hc
      rcases mem_append.mp hc with hc | hc
      . exact hs.fresh c hc
      . rw [mem_singleton.mp hc]
        intro now assignment hphase
        exact newCall_fresh hphase
    . intro c hc now hnow
      rcases mem_append.mp hc with hc | hc
      . exact hs.remembered c hc now hnow
      . rw [mem_singleton.mp hc, hnew] at hnow
        cases hnow
    . -- the new call has not been admitted, so both calls are old ones
      have hold : ∀ (i : ℕ) (c : Call), (s.calls ++ [peer.newCall intact request s.clock])[i]? =
          some c → c.phase.admittedAt.isSome = true → s.calls[i]? = some c := by
        intro i c hc hadmitted
        rw [getElem?_append] at hc
        split at hc
        . exact hc
        . rw [mem_singleton.mp (mem_of_getElem? hc), hnew] at hadmitted
          cases hadmitted
      intro i j c d hc hd hc' hd'
      exact hs.unique i j c d (hold i c hc hc') (hold j d hd hd') hc' hd'
  | accept hcall haccept => exact inv_accept hs horderly hcall haccept
  | answer hcall hphase intact => exact inv_answer hs hcall hphase

def AnswersOnce (s : State) : Prop :=
  ∀ (i j : ℕ) (c d : Call), s.calls[i]? = some c → s.calls[j]? = some d →
    ∀ now now' envelope envelope', c.phase = .returned now envelope →
      d.phase = .returned now' envelope' → SameNonce c.request d.request → i = j

theorem Inv.answersOnce (h : Inv peer s) : AnswersOnce s := by
  intro i j c d hc hd now now' env env' hreturned hreturned' hsame
  exact h.unique i j c d hc hd (by rw [hreturned]; rfl) (by rw [hreturned']; rfl) hsame

/--
The caches are bounded in every run, and a signer's nonce is answered once in every run that enters
the lock in order.
-/
theorem handleVoteRequest_runs (peer : Peer) (clock : ℚ)
    : (∀ s, Transition.Run peer.step (fun _ _ => True) (init clock) s → Bounded s) ∧
      ∀ s, Transition.Run peer.step Orderly (init clock) s → AnswersOnce s := by
  constructor
  . intro s hrun
    refine hrun.invariant (fun _ _ _ _ => bounded_step) ?_
    simp [Bounded, init, cacheOf]
  . intro s hrun
    have hinv := hrun.invariant (fun _ _ _ => inv_step) (inv_init clock)
    exact hinv.answersOnce

end Mesh.Peer

namespace Mesh.Sample

open Raising
open Peer (init Orderly AnswersOnce)

def signer : String :=
  Hex.encode (publicKey 6).raw

@[simps]
def peer : Peer where
  agentId := "x"
  privateKey := privateKey 3
  constitutionalHash := "c"
  trustedRequestSigners := [signer]
  trustedAssigners := ⟨registry, validateTrustRoot_registry⟩
  replayWindowSeconds := 1
  validate _ := .ok ⟨true, [], "c"⟩

@[simps]
def request (nonce : String) (timestamp : ℚ) : RemoteVoteRequest where
  assignmentId := "i"
  voterId := "x"
  producerId := "p"
  artifactId := "t"
  content := ""
  contentHash := contentHash ""
  constitutionalHash := "c"
  voterPublicKey := peer.publicKeyHex
  nonce := nonce
  timestamp := timestamp
  requestSignerPublicKey := signer
  requestSignature := zeros 128
  taskId := "t"
  assignedPeers := ["x", "y", "z"]
  quorum := 2
  evidenceMode := .independent
  protocolVersion := 3
  signedAssignment := some assignment

theorem binding_request (nonce : String) (timestamp : ℚ)
    : (request nonce timestamp).binding = assignment.binding := by
  simp [RemoteVoteRequest.binding, AssignmentFields.binding]

theorem hasValidSignature_request (nonce : String) (timestamp : ℚ)
    : (request nonce timestamp).hasValidSignature := by
  have hpay : ∃ payload, (request nonce timestamp).buildPayload = .ok payload := by
    simp [RemoteVoteRequest.buildPayload, binding_request, sortTexts_voters,
      Apcc.raiseIf]
  obtain ⟨payload, hpay⟩ := hpay
  have hkey : publicKeyFrom (.text (request nonce timestamp).requestSignerPublicKey) =
      .ok (publicKey 6) := publicKeyFrom_encode _
  simp only [RemoteVoteRequest.hasValidSignature, hpay, hkey, ok_bind, pure_eq_ok]
  exact verifies_zeros _ _

variable {nonce : String} {timestamp now clock : ℚ} {caches : Peer.NonceCaches}
  {calls : List Peer.Call} {sections : List (String × ℚ)}

theorem verifyRequest_request (hnonce : nonce ≠ "") (hwindow : |now - timestamp| ≤ 1)
    : peer.verifyRequest true (request nonce timestamp) now = .ok assignment := by
  have hasg : peer.requireSignedAssignment (request nonce timestamp) = .ok assignment := by
    have hver := verifySignedAssignment_assignment
    rw [← binding_request nonce timestamp] at hver
    simp only [Peer.requireSignedAssignment, request_signedAssignment,
      peer_trustedAssigners_registry, hver, ok_bind, pure_eq_ok]
  have hchecked : peer.checkRequest true (request nonce timestamp) = .ok assignment := by
    simp only [Peer.checkRequest, hasg, bind_eq_ok, exists_unit, raiseIf_eq_ok, ensure_eq_ok,
      Peer.assertConstitutionUnchanged, ok_bind, pure_eq_ok]
    simp
  have hverify : (request nonce timestamp).verify 1 now = .ok () := by
    simp only [RemoteVoteRequest.verify, hasValidSignature_request, bind_eq_ok, exists_unit,
      raiseIf_eq_ok, Apcc.ensure_true]
    simp [hnonce, hwindow]
  simp only [Peer.verifyRequest, hchecked, ok_bind, peer_replayWindowSeconds, hverify, pure_eq_ok]

theorem exists_answer_request (timestamp : ℚ) (hnonce : nonce ≠ "")
    : ∃ envelope, peer.answer true (request nonce timestamp) assignment = .ok envelope := by
  have hvalid : (unsignedVote (privateKey 3) "x" assignment.binding .approved
      "constitutional check passed" nonce (.finite timestamp)
      ⟨rosterHash ["x", "y", "z"], 3, 2, .independent⟩
      (signedAssignmentDigest assignmentFields)).Valid := {
    version := .inr rfl
    voter := normalizeVoterId_eq (by simp [unsignedVote])
    keyId := isCanonical_sha256 _
    hash := isCanonical_sha256 _
    count := by simp [unsignedVote]
    quorum := by simp [unsignedVote]
    majority := by simp [unsignedVote]
    texts := by
      simp [unsignedVote, AssignmentFields.binding, Binding.entries, contentHash_ne, hnonce]
    finite := rfl
    signature := isCanonical_zeros 128
    digest := isCanonical_sha256 _ }
  obtain ⟨signed, hsigned, -⟩ := exists_signVoteEnvelope canonicalAssignedPeers_voters
    (normalizeVoterId_eq (by decide)) hvalid
  have hbinding : { (request nonce timestamp).binding with constitutionalHash := "c" } =
      assignment.binding := by
    rw [binding_request]
    rfl
  refine ⟨signed, ?_⟩
  rw [Peer.answer, request_content, request_contentHash, peer_constitutionalHash, hbinding]
  simp only [bind_eq_ok, exists_unit, raiseIf_eq_ok, Peer.assertConstitutionUnchanged, ensure_eq_ok,
    decide_eq_false_iff_not, ne_eq, not_not]
  exact ⟨trivial, _, rfl, trivial, rfl, hsigned⟩

theorem answeredPhase_request (timestamp now : ℚ) (hnonce : nonce ≠ "")
    : ∃ envelope, peer.answeredPhase true (request nonce timestamp) now assignment =
      .returned now envelope := by
  obtain ⟨envelope, henv⟩ := exists_answer_request timestamp hnonce
  exact ⟨envelope, by rw [Peer.answeredPhase, henv]⟩

theorem expiresAt_request (nonce : String) (timestamp now : ℚ)
    : peer.expiresAt (request nonce timestamp) now = max now timestamp + 1 := rfl

theorem cacheOf_set_signer (caches : Peer.NonceCaches) (cache : List (String × ℚ))
    : Peer.cacheOf (Assoc.set signer cache caches) signer = cache := by
  rw [Peer.cacheOf_set, if_pos rfl]

theorem step_verify (hnonce : nonce ≠ "") (hwindow : |clock - timestamp| ≤ 1)
    : peer.step ⟨clock, caches, calls, sections⟩ (.verify (request nonce timestamp) true) =
      .ok ⟨clock, caches, calls ++ [⟨request nonce timestamp, .verified clock assignment⟩],
        sections⟩ := by
  rw [Peer.step, Peer.newCall, verifyRequest_request hnonce hwindow]

theorem step_tick (h : clock ≤ now)
    : peer.step ⟨clock, caches, calls, sections⟩ (.tick now) =
      .ok ⟨now, caches, calls, sections⟩ := by
  rw [Peer.step, if_pos h]

theorem step_accept (i : ℕ)
    (hcall : calls[i]? = some ⟨request nonce timestamp, .verified now assignment⟩)
    (hcache : Peer.cacheOf caches signer = cache)
    (haccept : ReplayCache.accept Peer.maxNoncesPerSigner cache nonce now (max now timestamp + 1) =
      (cache', refusal))
    : peer.step ⟨clock, caches, calls, sections⟩ (.accept i) =
      .ok ⟨clock, Assoc.set signer cache' caches, calls.set i ⟨request nonce timestamp,
        Peer.settledPhase (request nonce timestamp) now assignment refusal⟩,
        sections ++ [(signer, now)]⟩ := by
  simp only [Peer.step, hcall, Peer.admitRequestNonce, request_requestSignerPublicKey,
    request_nonce, expiresAt_request, hcache, haccept]

theorem step_answer {envelope} (i : ℕ)
    (hcall : calls[i]? = some ⟨request nonce timestamp, .admitted now assignment⟩)
    (hans : peer.answeredPhase true (request nonce timestamp) now assignment =
      .returned now envelope)
    : peer.step ⟨clock, caches, calls, sections⟩ (.answer i true) =
      .ok ⟨clock, caches, calls.set i ⟨request nonce timestamp, .returned now envelope⟩,
        sections⟩ := by
  simp only [Peer.step, hcall, hans]

theorem accept_first
    : ReplayCache.accept Peer.maxNoncesPerSigner [] "n" (0 : ℚ) (max 0 0 + 1) =
      ([("n", 1)], none) := by
  decide +kernel

theorem handleVoteRequest_runs_replayed
    : ∃ s, Transition.Run peer.step Orderly (init 0) s ∧ AnswersOnce s ∧ ∃ envelope,
      s.calls.map (·.phase) = [.returned 0 envelope,
        .refused (Peer.refusalError (request "n" 0) .replayed)] := by
  obtain ⟨envelope, hans⟩ := answeredPhase_request 0 0 (by decide : "n" ≠ "")
  have hreplay : ReplayCache.accept Peer.maxNoncesPerSigner [("n", (1 : ℚ))] "n" 0 (max 0 0 + 1) =
      ([("n", 1)], some .replayed) := by
    decide +kernel
  have hwindow : |(0 : ℚ) - 0| ≤ 1 := by norm_num
  have hstart : Transition.Run peer.step Orderly (init 0) (init 0) := .refl _
  have hver := hstart.tail (a := Peer.Action.verify (request "n" 0) true) trivial
    (step_verify (by decide : "n" ≠ "") hwindow)
  have horderly : Orderly ⟨0, [], [⟨request "n" 0, .verified 0 assignment⟩], []⟩ (.accept 0) := by
    intro request' now assignment' hcall
    refine ⟨by simp, ?_⟩
    intro c hc first hfirst
    rw [List.mem_singleton.mp hc] at hfirst
    cases hfirst
  have hreturned := (hver.tail horderly (step_accept 0 rfl rfl accept_first)).tail
    (a := Peer.Action.answer 0 true) trivial (step_answer 0 rfl hans)
  have hagain := hreturned.tail (a := Peer.Action.verify (request "n" 0) true) trivial
    (step_verify (by decide : "n" ≠ "") hwindow)
  have horderly' : Orderly ⟨0, Assoc.set signer [("n", 1)] [], [⟨request "n" 0,
      .returned 0 envelope⟩, ⟨request "n" 0, .verified 0 assignment⟩], [(signer, 0)]⟩
      (.accept 1) := by
    rintro _ _ _ ⟨⟩
    refine ⟨by simp, ?_⟩
    intro c hc first hfirst _
    obtain rfl | rfl := by simpa using hc
    all_goals cases hfirst
    simp
  have hrefused := hagain.tail horderly' (step_accept 1 rfl (cacheOf_set_signer _ _) hreplay)
  exact ⟨_, hrefused, (Peer.handleVoteRequest_runs peer 0).2 _ hrefused, envelope, rfl⟩

/--
Two calls with one request pass their checks. The second waits for the lock until a third call with
a later reading of the clock has dropped the nonce of the first.
-/
theorem handleVoteRequest_answers_twice
    : ∃ s, Transition.Run peer.step (fun _ _ => True) (init 0) s ∧ ¬AnswersOnce s := by
  obtain ⟨envelope, hans⟩ := answeredPhase_request 0 0 (by decide : "n" ≠ "")
  have hsweep : ReplayCache.accept Peer.maxNoncesPerSigner [("n", (1 : ℚ))] "m" 2 (max 2 2 + 1) =
      ([("m", 3)], none) := by
    decide +kernel
  have hsecond : ReplayCache.accept Peer.maxNoncesPerSigner [("m", (3 : ℚ))] "n" 0 (max 0 0 + 1) =
      ([("m", 3), ("n", 1)], none) := by
    decide +kernel
  have hstart : Transition.Run peer.step (fun _ _ => True) (init 0) (init 0) := .refl _
  have hwaiting := (hstart.tail trivial
    (step_verify (by decide : "n" ≠ "") (by norm_num : |(0 : ℚ) - 0| ≤ 1))).tail trivial
    (step_verify (by decide : "n" ≠ "") (by norm_num : |(0 : ℚ) - 0| ≤ 1))
  have hadmitted := hwaiting.tail trivial (step_accept 0 rfl rfl accept_first)
  have hlate := (hadmitted.tail trivial (step_tick (by norm_num : (0 : ℚ) ≤ 2))).tail trivial
    (step_verify (by decide : "m" ≠ "") (by norm_num : |(2 : ℚ) - 2| ≤ 1))
  have hswept := hlate.tail trivial (step_accept 2 rfl (cacheOf_set_signer _ _) hsweep)
  have hreplayed := hswept.tail trivial (step_accept 1 rfl (cacheOf_set_signer _ _) hsecond)
  have hreturned := (hreplayed.tail trivial (step_answer 0 rfl hans)).tail trivial
    (step_answer 1 rfl hans)
  refine ⟨_, hreturned, ?_⟩
  intro honce
  exact absurd (honce 0 1 _ _ rfl rfl 0 0 envelope envelope rfl rfl ⟨rfl, rfl⟩) (by decide)

end Mesh.Sample
