import ConstitutionalSwarm.Apcc.Codec
import ConstitutionalSwarm.Data.Assoc
import Mathlib.Algebra.BigOperators.Group.List.Basic
import Mathlib.Logic.Function.Basic

namespace Apcc

open List

structure CacheLimits where
  maxEntries : ℤ
  maxPayloadBytes : ℤ
  positive : 0 < maxEntries ∧ 0 < maxPayloadBytes

def CacheLimits.new (maxEntries maxPayloadBytes : ℤ) : Py CacheLimits :=
  if h : 0 < maxEntries ∧ 0 < maxPayloadBytes then .ok ⟨maxEntries, maxPayloadBytes, h⟩
  else .error (.valueError "certificate decode cache limits must be positive")

structure DecodeCache where
  entries : List (Bytes × CommitCertificate)
  payloadBytes : ℤ

namespace DecodeCache

def moveToEnd (c : DecodeCache) (payload : Bytes) (cached : CommitCertificate) : DecodeCache :=
  { c with entries := Assoc.erase payload c.entries ++ [(payload, cached)] }

variable (limits : CacheLimits)

def evict (size : ℤ) : List (Bytes × CommitCertificate) → ℤ → DecodeCache
  | [], total => ⟨[], total⟩
  | e :: rest, total =>
    if limits.maxEntries ≤ (e :: rest).length ∨ limits.maxPayloadBytes < total + size then
      evict size rest (total - e.1.length)
    else ⟨e :: rest, total⟩

def insert (c : DecodeCache) (payload : Bytes) (certificate : CommitCertificate) : DecodeCache :=
  let kept := evict limits payload.length c.entries c.payloadBytes
  ⟨kept.entries ++ [(payload, certificate)], kept.payloadBytes + payload.length⟩

def keyBytes (entries : List (Bytes × CommitCertificate)) : ℤ :=
  (entries.map fun e => (e.1.length : ℤ)).sum

section

variable {limits : CacheLimits}

theorem evict_spec {entries} (htotal : total = keyBytes entries)
    (hsize : size ≤ limits.maxPayloadBytes)
    : (evict limits size entries total).entries <:+ entries ∧
      (evict limits size entries total).payloadBytes
        = keyBytes (evict limits size entries total).entries ∧
      (evict limits size entries total).entries.length < limits.maxEntries ∧
      (evict limits size entries total).payloadBytes + size ≤ limits.maxPayloadBytes := by
  induction entries generalizing total with
  | nil =>
    subst htotal
    have hpos := limits.positive.1
    simpa [evict, keyBytes] using ⟨hpos, hsize⟩
  | cons e entries ih =>
    rw [evict]
    split
    . have hrest : total - e.1.length = keyBytes entries := by simp [htotal, keyBytes]
      obtain ⟨hsuffix, hspec⟩ := ih hrest
      exact ⟨hsuffix.trans (suffix_cons e entries), hspec⟩
    . next hfits =>
      rw [not_or, not_le, not_lt] at hfits
      exact ⟨suffix_rfl, htotal, hfits⟩

end

variable [Platform]

structure Sound (c : DecodeCache) : Prop where
  unique : Assoc.Unique c.entries
  decoded : ∀ e ∈ c.entries, decodeCertificate e.1 = .ok e.2
  total : c.payloadBytes = keyBytes c.entries
  entries_le : c.entries.length ≤ limits.maxEntries
  bytes_le : c.payloadBytes ≤ limits.maxPayloadBytes

variable {limits} {c : DecodeCache} {payload : Bytes}

theorem Sound.moveToEnd (h : Sound limits c) (hlook : c.entries.lookup payload = some cached)
    : Sound limits (c.moveToEnd payload cached) := by
  have hperm := h.unique.perm_erase hlook
  refine ⟨(hperm.map _).nodup_iff.mpr h.unique, fun e he => h.decoded e (hperm.mem_iff.mp he), ?_,
    hperm.length_eq.symm ▸ h.entries_le, h.bytes_le⟩
  rw [keyBytes, DecodeCache.moveToEnd, (hperm.map _).sum_eq]
  exact h.total

theorem Sound.insert (h : Sound limits c) (hnew : c.entries.lookup payload = none)
    (hdec : decodeCertificate payload = .ok certificate)
    (hsize : payload.length ≤ limits.maxPayloadBytes)
    : Sound limits (c.insert limits payload certificate) := by
  obtain ⟨hsuffix, htotal, hlen, hbytes⟩ := evict_spec h.total hsize
  have hfresh : payload ∉ (evict limits payload.length c.entries c.payloadBytes).entries.map
      Prod.fst := by
    intro hmem
    obtain ⟨e, he, rfl⟩ := mem_map.mp hmem
    simpa using lookup_eq_none_iff.mp hnew e (hsuffix.subset he)
  refine ⟨?_, ?_, ?_, ?_, hbytes⟩
  . exact Assoc.nodup_map_concat.mpr ⟨hfresh, h.unique.sublist (hsuffix.map _).sublist⟩
  . intro e he
    rcases mem_append.mp he with he | he
    . exact h.decoded e (hsuffix.subset he)
    . obtain rfl := mem_singleton.mp he
      exact hdec
  . simp [DecodeCache.insert, keyBytes, htotal]
  . simp only [DecodeCache.insert, length_append, length_singleton, Nat.cast_succ]
    omega

end DecodeCache

inductive DecodePhase where
  | idle
  | missed (payload : Bytes)
  | decoded (payload : Bytes) (certificate : CommitCertificate)

def DecodePhase.pending : DecodePhase → List Bytes
  | .idle => []
  | .missed payload | .decoded payload _ => [payload]

structure DecodeState where
  cache : DecodeCache
  phases : ℕ → DecodePhase
  answers : List (ℕ × Bytes × Py CommitCertificate)

inductive DecodeEvent where
  | call (thread : ℕ) (payload : Bytes)
  | proceed (thread : ℕ)

def DecodeEvent.thread : DecodeEvent → ℕ
  | .call thread _ | .proceed thread => thread

namespace DecodeState

def start : DecodeState :=
  ⟨⟨[], 0⟩, fun _ => .idle, []⟩

def suspend (s : DecodeState) (thread : ℕ) (phase : DecodePhase) : DecodeState :=
  { s with phases := Function.update s.phases thread phase }

def answer (s : DecodeState) (thread : ℕ) (payload : Bytes) (result : Py CommitCertificate)
    : DecodeState :=
  { s.suspend thread .idle with answers := s.answers ++ [(thread, payload, result)] }

def locked (s : DecodeState) (thread : ℕ) (payload : Bytes) (miss : DecodeState) : DecodeState :=
  match s.cache.entries.lookup payload with
  | some cached =>
    { s with cache := s.cache.moveToEnd payload cached }.answer thread payload (.ok cached)
  | none => miss

theorem phases_locked {s miss : DecodeState} (h : miss.phases thread = .idle)
    : (s.locked thread payload miss).phases thread = .idle := by
  rw [locked]
  split
  . simp [answer, suspend]
  . exact h

variable [Platform]

/-- The steps of `decode`: the two sections under the lock and the decoding between them. -/
def step (limits : CacheLimits) (s : DecodeState) : DecodeEvent → DecodeState
  | .call thread payload =>
    match s.phases thread with
    | .idle => s.locked thread payload (s.suspend thread (.missed payload))
    | _ => s
  | .proceed thread =>
    match s.phases thread with
    | .idle => s
    | .missed payload =>
      match decodeCertificate payload with
      | .error e => s.answer thread payload (.error e)
      | .ok certificate =>
        if limits.maxPayloadBytes < payload.length then s.answer thread payload (.ok certificate)
        else s.suspend thread (.decoded payload certificate)
    | .decoded payload certificate =>
      s.locked thread payload
        ({ s with cache := s.cache.insert limits payload certificate }.answer thread payload
          (.ok certificate))

structure Sound (limits : CacheLimits) (s : DecodeState) : Prop where
  cache : s.cache.Sound limits
  phases : ∀ thread payload certificate, s.phases thread = .decoded payload certificate →
    decodeCertificate payload = .ok certificate ∧ payload.length ≤ limits.maxPayloadBytes

variable {limits : CacheLimits} {s : DecodeState}

theorem Sound.suspend (h : Sound limits s) (hphase : ∀ payload certificate,
      phase = .decoded payload certificate → decodeCertificate payload = .ok certificate ∧
        payload.length ≤ limits.maxPayloadBytes)
    : Sound limits (s.suspend thread phase) := by
  refine ⟨h.cache, fun t payload certificate ht => ?_⟩
  simp only [DecodeState.suspend, Function.update_apply] at ht
  split at ht
  . exact hphase payload certificate ht
  . exact h.phases t payload certificate ht

theorem Sound.answer (h : Sound limits s) : Sound limits (s.answer thread payload result) :=
  have hidle : Sound limits (s.suspend thread .idle) := h.suspend (by simp)
  ⟨hidle.cache, hidle.phases⟩

theorem Sound.locked (h : Sound limits s)
    (hnext : s.cache.entries.lookup payload = none → Sound limits miss)
    : Sound limits (s.locked thread payload miss) := by
  rw [DecodeState.locked]
  split
  . next cached hlook =>
    have hmoved : Sound limits { s with cache := s.cache.moveToEnd payload cached } :=
      ⟨h.cache.moveToEnd hlook, h.phases⟩
    exact hmoved.answer
  . next hlook => exact hnext hlook

theorem Sound.step (h : Sound limits s) (e : DecodeEvent) : Sound limits (s.step limits e) := by
  cases e with
  | call thread payload =>
    rw [DecodeState.step]
    split
    . exact h.locked fun _ => h.suspend (by simp)
    . exact h
  | proceed thread =>
    rw [DecodeState.step]
    split
    . exact h
    . split
      . exact h.answer
      . next hdec =>
        split
        . exact h.answer
        . next hsize =>
          apply h.suspend
          rintro _ _ ⟨⟩
          exact ⟨hdec, not_lt.mp hsize⟩
    . next hphase =>
      obtain ⟨hdec, hsize⟩ := h.phases _ _ _ hphase
      apply h.locked
      intro hnew
      have hcached : Sound limits { s with cache := s.cache.insert limits _ _ } :=
        ⟨h.cache.insert hnew hdec hsize, h.phases⟩
      exact hcached.answer

def answersTo (s : DecodeState) (thread : ℕ) : List (Bytes × Py CommitCertificate) :=
  (s.answers.filter (·.1 = thread)).map Prod.snd

/-- The answers to a thread, and the one it still waits for, as `decode_certificate` gives it. -/
def log (s : DecodeState) (thread : ℕ) : List (Bytes × Py CommitCertificate) :=
  s.answersTo thread ++
    (s.phases thread).pending.map fun payload => (payload, decodeCertificate payload)

def callOf (s : DecodeState) (thread : ℕ) : DecodeEvent → List Bytes
  | .call caller payload =>
    if caller = thread ∧ (s.phases thread).pending = [] then [payload] else []
  | .proceed _ => []

/-- The payloads that a thread calls with; one that waits for an answer makes no call. -/
def calls (limits : CacheLimits) (thread : ℕ) : DecodeState → List DecodeEvent → List Bytes
  | _, [] => []
  | s, e :: events => s.callOf thread e ++ calls limits thread (s.step limits e) events

section Log

variable {caller thread : ℕ}

omit [Platform] in
theorem answersTo_answer (s : DecodeState) (thread : ℕ) (payload : Bytes)
    (result : Py CommitCertificate)
    : (s.answer thread payload result).answersTo thread =
      s.answersTo thread ++ [(payload, result)] := by
  simp [answersTo, DecodeState.answer, DecodeState.suspend]

theorem log_answer (hresult : result = decodeCertificate payload)
    : (s.answer thread payload result).log thread =
      s.answersTo thread ++ [(payload, decodeCertificate payload)] := by
  have hidle : ((s.answer thread payload result).phases thread).pending = [] := by
    simp [DecodeState.answer, DecodeState.suspend, DecodePhase.pending]
  rw [log, answersTo_answer, hidle, hresult, map_nil, append_nil]

theorem log_suspend (hphase : phase.pending = [payload])
    : (s.suspend thread phase).log thread =
      s.answersTo thread ++ [(payload, decodeCertificate payload)] := by
  simp [log, answersTo, DecodeState.suspend, hphase]

theorem log_locked (h : Sound limits s) (hmiss : miss.log thread =
      s.answersTo thread ++ [(payload, decodeCertificate payload)])
    : (s.locked thread payload miss).log thread =
      s.answersTo thread ++ [(payload, decodeCertificate payload)] := by
  rw [DecodeState.locked]
  split
  . next hlook => exact log_answer (h.cache.decoded _ (Assoc.mem_of_lookup hlook)).symm
  . exact hmiss

variable (hne : caller ≠ thread)

include hne

theorem log_suspend_of_ne : (s.suspend caller phase).log thread = s.log thread := by
  simp [log, answersTo, DecodeState.suspend, hne.symm]

theorem log_answer_of_ne : (s.answer caller payload result).log thread = s.log thread := by
  simp [log, answersTo, DecodeState.answer, DecodeState.suspend, hne, hne.symm]

theorem log_locked_of_ne (hmiss : miss.log thread = s.log thread)
    : (s.locked caller payload miss).log thread = s.log thread := by
  rw [DecodeState.locked]
  split
  . exact log_answer_of_ne hne
  . exact hmiss

end Log

theorem log_step_of_ne (hne : e.thread ≠ thread) : (s.step limits e).log thread = s.log thread := by
  cases e with
  | call caller payload =>
    rw [step]
    split
    . exact log_locked_of_ne hne (log_suspend_of_ne hne)
    . rfl
  | proceed caller =>
    rw [step]
    split
    . rfl
    . split
      . exact log_answer_of_ne hne
      . split
        . exact log_answer_of_ne hne
        . exact log_suspend_of_ne hne
    . exact log_locked_of_ne hne (log_answer_of_ne hne)

theorem log_step (h : Sound limits s) (e : DecodeEvent) (thread : ℕ)
    : (s.step limits e).log thread = s.log thread ++
        (s.callOf thread e).map fun payload => (payload, decodeCertificate payload) := by
  cases e with
  | call caller payload =>
    by_cases hcaller : caller = thread
    . subst hcaller
      cases hphase : s.phases caller with
      | idle =>
        have hmiss : (s.suspend caller (.missed payload)).log caller = _ := log_suspend rfl
        have hlocked := log_locked h hmiss
        simp only [step, hphase, hlocked]
        simp [log, callOf, hphase, DecodePhase.pending]
      | missed _ | decoded _ _ => simp [step, hphase, callOf, DecodePhase.pending]
    . rw [log_step_of_ne (e := .call caller payload) hcaller, callOf,
        if_neg fun h => hcaller h.1, map_nil, append_nil]
  | proceed caller =>
    rw [callOf, map_nil, append_nil]
    by_cases hcaller : caller = thread
    . subst hcaller
      cases hphase : s.phases caller with
      | idle => rw [step, hphase]
      | missed payload =>
        have hlog : s.log caller =
            s.answersTo caller ++ [(payload, decodeCertificate payload)] := by
          rw [log, hphase, DecodePhase.pending, map_singleton]
        rw [step, hphase, hlog]
        dsimp only
        split
        . next hdec => exact log_answer hdec.symm
        . next hdec =>
          split
          . exact log_answer hdec.symm
          . exact log_suspend rfl
      | decoded payload certificate =>
        have hlog : s.log caller =
            s.answersTo caller ++ [(payload, decodeCertificate payload)] := by
          rw [log, hphase, DecodePhase.pending, map_singleton]
        rw [step, hphase, hlog]
        exact log_locked h (log_answer (h.phases _ _ _ hphase).1.symm)
    . exact log_step_of_ne hcaller

theorem sound_foldl (h : Sound limits s) (events : List DecodeEvent)
    : Sound limits (events.foldl (step limits) s) := by
  induction events generalizing s with
  | nil => exact h
  | cons e events ih => exact ih (h.step e)

theorem log_foldl (h : Sound limits s) (events : List DecodeEvent) (thread : ℕ)
    : (events.foldl (step limits) s).log thread = s.log thread ++
        (calls limits thread s events).map fun payload => (payload, decodeCertificate payload) := by
  induction events generalizing s with
  | nil => simp [calls]
  | cons e events ih =>
    rw [foldl_cons, ih (h.step e), log_step h, calls, map_append, append_assoc]

theorem sound_start (limits : CacheLimits) : Sound limits start :=
  have hpos := limits.positive
  ⟨⟨.nil, by simp [start], rfl, hpos.1.le, hpos.2.le⟩, by simp [start]⟩

theorem phases_proceed (limits : CacheLimits) (s : DecodeState) (thread : ℕ)
    : ((s.step limits (.proceed thread)).step limits (.proceed thread)).phases thread = .idle := by
  have hdone (s : DecodeState) (h : ∀ payload, s.phases thread ≠ .missed payload)
      : (s.step limits (.proceed thread)).phases thread = .idle := by
    rw [step]
    split
    . assumption
    . next hphase => exact absurd hphase (h _)
    . exact phases_locked (by simp [answer, suspend])
  apply hdone
  intro payload
  rw [step]
  split
  . next hphase => simp [hphase]
  . split
    . simp [answer, suspend]
    . split <;> simp [answer, suspend]
  . rw [phases_locked (by simp [answer, suspend])]
    simp

/-- Every call is answered as `decode_certificate` answers it, and the cache stays in its bounds. -/
theorem decode_transparent (limits : CacheLimits) (events : List DecodeEvent)
    : let s := events.foldl (step limits) start
      (∀ thread, s.log thread = (calls limits thread start events).map
        fun payload => (payload, decodeCertificate payload)) ∧
      s.cache.payloadBytes = (s.cache.entries.map fun e => (e.1.length : ℤ)).sum ∧
      s.cache.entries.length ≤ limits.maxEntries ∧
      s.cache.payloadBytes ≤ limits.maxPayloadBytes ∧
      ∀ thread, ((s.step limits (.proceed thread)).step limits
        (.proceed thread)).phases thread = .idle := by
  have h := sound_foldl (sound_start limits) events
  exact ⟨fun thread => log_foldl (sound_start limits) events thread, h.cache.total,
    h.cache.entries_le, h.cache.bytes_le, phases_proceed limits _⟩

end DecodeState

end Apcc
