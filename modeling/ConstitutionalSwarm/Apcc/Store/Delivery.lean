import ConstitutionalSwarm.Apcc.Store.Growth
import ConstitutionalSwarm.Apcc.Store.Progress

namespace Apcc

variable [Platform]

structure Backend where
  claim : Store → String → Int → Py (Option OutboxRow × Store)
  finalize : Store → String → String → Py Store
  audit : Store → List String → Py Store

namespace Sqlite

def outbox : Backend :=
  ⟨claimOutbox, finalizeOutbox, fun s _ => .ok s⟩

end Sqlite

namespace Postgres

def leasable (now : ℕ) : OutboxState → Bool
  | .pending => true
  | .claimed _ _ stop => stop ≤ now
  | .delivered => false

-- `SKIP LOCKED` passes over nothing: a row is locked only under the checkpoint row.
def claim (s : Store) (token : String) (now : Int) : Py (Option OutboxRow × Store) := do
  let now ← trustedNow now
  raiseIf (now + leaseMs > maxSafeInteger) (.valueError FailureCode.invalidDecimalString.value)
  match s.outbox.find? (leasable now ·.state) with
  | none => return (none, s)
  | some row =>
    let outbox ← update s.outbox (·.eventSequence = row.eventSequence)
      fun r => { r with state := .claimed token now (now + leaseMs) }
    return (some row, { s with outbox })

def finalize (s : Store) (eventId token : String) : Py Store := do
  let outbox ← update s.outbox (·.isLeasedBy eventId token) fun r => { r with state := .delivered }
  return { s with outbox }

def audit (s : Store) (delivered : List String) : Py Store := do
  let audit := auditId "outbox-delivered" delivered
  if delivered = [] ∨ s.auditEvents.any (·.auditEventId = audit) then return s
  else
    let auditEvents ← insert s.auditEvents (auditRow audit "outbox_delivered" "outbox" [])
    return { s with auditEvents }

def outbox : Backend :=
  ⟨claim, finalize, audit⟩

end Postgres

namespace Delivery

inductive Phase where
  | idle
  | looping (left : ℕ) (delivered : List String)
  | claiming (left : ℕ) (delivered : List String) (token : String) (now : Int)
  | delivering (left : ℕ) (delivered : List String) (token : String) (event : OutboxRow)
  | returned (left : ℕ) (delivered : List String) (token : String) (event : OutboxRow)
  | raised (token : String) (event : OutboxRow)
  | counting (delivered : List String)

def Phase.token? : Phase → Option String
  | .claiming _ _ token _ | .delivering _ _ token _ | .returned _ _ token _ | .raised token _ =>
    some token
  | .idle | .looping _ _ | .counting _ => none

structure System where
  store : Store
  clock : Int
  tokens : List String
  workers : ℕ → Phase
  sink : List (ℕ × String × String)

def System.enter (s : System) (w : ℕ) (phase : Phase) : System :=
  { s with workers := Function.update s.workers w phase }

end Delivery

def Operation.isOutbox : Operation → Bool
  | .claimOutbox .. | .releaseOutbox .. | .finalizeOutbox .. => true
  | _ => false

namespace Delivery

-- A call that raises ends, as a crashed one does: `stop` leads from every phase to `idle`.
inductive Step (backend : Backend) (authority : Authority) (s : System) : System → Prop where
  | transaction {operation : Operation} {store : Store} (hoperation : operation.isOutbox = false)
      (h : step authority s.store operation = .ok store)
      : Step backend authority s { s with store }
  | tick {clock : Int} (h : s.clock ≤ clock) : Step backend authority s { s with clock }
  | call {w maximum : ℕ} {maxItems : String} (hw : s.workers w = .idle)
      (h : canonicalPositiveDecimal maxItems 1000 = .ok (maximum : Int))
      : Step backend authority s (s.enter w (.looping maximum []))
  | draw {w left : ℕ} {delivered : List String} {token : String}
      (hw : s.workers w = .looping (left + 1) delivered) (h : token ∉ s.tokens)
      : Step backend authority s
        ({ s with tokens := token :: s.tokens }.enter w (.claiming left delivered token s.clock))
  | claim {w left : ℕ} {delivered : List String} {token : String} {now : Int} {event : OutboxRow}
      {store : Store} (hw : s.workers w = .claiming left delivered token now)
      (h : backend.claim s.store token now = .ok (some event, store))
      : Step backend authority s
        ({ s with store }.enter w (.delivering left delivered token event))
  | exhausted {w left : ℕ} {delivered : List String} {token : String} {now : Int} {store : Store}
      (hw : s.workers w = .claiming left delivered token now)
      (h : backend.claim s.store token now = .ok (none, store))
      : Step backend authority s ({ s with store }.enter w (.counting delivered))
  | deliver {w left : ℕ} {delivered : List String} {token : String} {event : OutboxRow}
      (hw : s.workers w = .delivering left delivered token event)
      : Step backend authority s
        ({ s with sink := (w, token, event.eventId) :: s.sink }.enter w
          (.returned left delivered token event))
  | fail {w left : ℕ} {delivered : List String} {token : String} {event : OutboxRow}
      (hw : s.workers w = .delivering left delivered token event)
      : Step backend authority s (s.enter w (.raised token event))
  | release {w : ℕ} {token : String} {event : OutboxRow} {store : Store}
      (hw : s.workers w = .raised token event)
      (h : releaseOutbox s.store event.eventId token = .ok store)
      : Step backend authority s ({ s with store }.enter w .idle)
  | finalize {w left : ℕ} {delivered : List String} {token : String} {event : OutboxRow}
      {store : Store} (hw : s.workers w = .returned left delivered token event)
      (h : backend.finalize s.store event.eventId token = .ok store)
      : Step backend authority s
        ({ s with store }.enter w (.looping left
          (if s.store.outbox.any (·.isLeasedBy event.eventId token) then
            delivered ++ [event.eventId] else delivered)))
  | count {w : ℕ} {delivered : List String} (hw : s.workers w = .looping 0 delivered)
      : Step backend authority s (s.enter w (.counting delivered))
  | audit {w : ℕ} {delivered : List String} {store : Store}
      (hw : s.workers w = .counting delivered)
      (h : backend.audit s.store delivered = .ok store)
      : Step backend authority s ({ s with store }.enter w .idle)
  | stop {w : ℕ} : Step backend authority s (s.enter w .idle)

end Delivery

section Events

variable {authority : Authority} {s s' : Store}

omit [Platform] in
theorem ConflictWrites.outbox
    (h : ConflictWrites s row supersedeOld s') : s'.outbox = s.outbox := by
  rw [h.unchanged]

theorem conflict_outbox
    (h : conflict s cid claim = .ok (res, s')) : s'.outbox = s.outbox := by
  obtain ⟨_, ⟨_, -, -, rfl⟩ | ⟨-, -, hwr⟩⟩ := conflict_cases h
  . rfl
  . exact hwr.outbox

variable {now : Int}

theorem CommitEffect.outbox (h : CommitEffect authority s req supersedeOld now res s')
    : s.outbox.rows <+: s'.outbox.rows := by
  cases h with
  | replayed => exact List.prefix_rfl
  | conflicted _ _ _ hconf => rw [conflict_outbox hconf]
  | denied _ _ hwr => rw [hwr.unchanged]
  | committed _ _ hwr => exact prefix_of_insert? hwr.outbox

omit [Platform] in
theorem Fenced.outbox (h : Fenced s req gen fenced) : fenced.outbox = s.outbox := by
  cases h <;> rfl

theorem outbox_prefix_of_step (hop : op.isOutbox = false)
    (h : step authority s op = .ok s') : s.outbox.rows <+: s'.outbox.rows := by
  cases op with
  | stageResult req =>
    obtain ⟨⟨_, _⟩, hstage, rfl⟩ := map_eq_ok.mp h
    rw [(stageResult_cases hstage).unchanged]
  | advance _ _ _ => rw [(advance_cases h).unchanged]
  | atomicCommit req now =>
    obtain ⟨⟨_, _⟩, hcommit, rfl⟩ := map_eq_ok.mp h
    exact (commit_effect hcommit).outbox
  | supersede req now =>
    obtain ⟨⟨_, _⟩, hsup, rfl⟩ := map_eq_ok.mp h
    obtain ⟨-, rfl | ⟨res, hcommit⟩⟩ := supersede_cases hsup
    . exact List.prefix_rfl
    . exact (commit_effect hcommit).outbox
  | revoke req =>
    obtain ⟨⟨_, _⟩, hrevoke, rfl⟩ := map_eq_ok.mp h
    obtain rfl | ⟨_, fenced, -, hfenced, hwr⟩ := revoke_cases hrevoke
    . exact List.prefix_rfl
    . rw [← hfenced.outbox]
      exact prefix_of_insert? hwr.outbox
  | recover cid rdig =>
    obtain ⟨⟨_, _⟩, hrecover, rfl⟩ := map_eq_ok.mp h
    rcases recover_cases hrecover with rfl | ⟨_, -, -, hconf⟩
    . exact List.prefix_rfl
    . rw [conflict_outbox hconf]
  | claimOutbox | releaseOutbox | finalizeOutbox => simp [Operation.isOutbox] at hop

structure Backend.Lawful (backend : Backend) : Prop where
  claim : ∀ {s s' : Store} {token : String} {now : Int} {event : OutboxRow},
    backend.claim s token now = .ok (some event, s') →
    event ∈ s.outbox ∧ event.state ≠ .delivered ∧
      ∃ start stop, s.outbox.update? (·.eventSequence = event.eventSequence)
        (fun r => { r with state := .claimed token start stop }) = some s'.outbox
  exhausted : ∀ {s s' : Store} {token : String} {now : Int},
    backend.claim s token now = .ok (none, s') → s' = s
  finalize : ∀ {s s' : Store} {eventId token : String},
    backend.finalize s eventId token = .ok s' → s'.outbox = s.outbox ∨
      s.outbox.update? (·.isLeasedBy eventId token) (fun r => { r with state := .delivered })
        = some s'.outbox
  audit : ∀ {s s' : Store} {delivered : List String},
    backend.audit s delivered = .ok s' → s'.outbox = s.outbox

omit [Platform] in
theorem claimOutbox_eq_ok (h : claimOutbox s token now = .ok (event, s'))
    : match event with
      | none => s' = s
      | some head => outboxHead? s = some head ∧
          ∃ start stop, s.outbox.update? (·.eventSequence = head.eventSequence)
            (fun r => { r with state := .claimed token start stop }) = some s'.outbox := by
  simp only [claimOutbox, bind_eq_ok, exists_unit] at h
  obtain ⟨_, -, -, h⟩ := h
  split at h
  . obtain ⟨rfl, rfl⟩ := Prod.mk.inj (pure_inj.mp h)
    rfl
  . next head hhead =>
    split at h
    . obtain ⟨rfl, rfl⟩ := Prod.mk.inj (pure_inj.mp h)
      rfl
    . simp only [bind_eq_ok, update_eq_ok, pure_inj, Prod.mk.injEq] at h
      obtain ⟨_, hupd, rfl, rfl⟩ := h
      exact ⟨hhead, _, _, hupd⟩

omit [Platform] in
theorem Postgres.claim_eq_ok (h : Postgres.claim s token now = .ok (event, s'))
    : match event with
      | none => s' = s
      | some row => ∃ clock, trustedNow now = .ok clock ∧
          s.outbox.find? (leasable clock ·.state) = some row ∧
          s.outbox.update? (·.eventSequence = row.eventSequence)
            (fun r => { r with state := .claimed token clock (clock + leaseMs) })
              = some s'.outbox := by
  simp only [Postgres.claim, bind_eq_ok, exists_unit] at h
  obtain ⟨clock, hclock, -, h⟩ := h
  split at h
  . obtain ⟨rfl, rfl⟩ := Prod.mk.inj (pure_inj.mp h)
    rfl
  . next row hrow =>
    simp only [bind_eq_ok, update_eq_ok, pure_inj, Prod.mk.injEq] at h
    obtain ⟨_, hupd, rfl, rfl⟩ := h
    exact ⟨clock, hclock, hrow, hupd⟩

theorem Sqlite.lawful_outbox : Sqlite.outbox.Lawful where
  claim h := by
    obtain ⟨hfind, hupd⟩ := claimOutbox_eq_ok h
    obtain ⟨hmem, hstate⟩ := Table.mem_of_find? hfind
    exact ⟨hmem, of_decide_eq_true hstate, hupd⟩
  exhausted h := claimOutbox_eq_ok h
  finalize h := by
    rename_i s s' eventId token
    unfold outbox finalizeOutbox at h
    dsimp only at h
    split at h
    . simp only [bind_eq_ok, update_eq_ok] at h
      obtain ⟨outbox, hupd, h⟩ := h
      right
      split at h
      . rw [hupd, ← Except.ok.inj h]
      . simp only [bind_eq_ok, insert_eq_ok] at h
        obtain ⟨_, -, h⟩ := h
        rw [hupd, ← Except.ok.inj h]
    . rw [← Except.ok.inj h]
      exact .inl rfl
  audit h := by rw [← Except.ok.inj h]

theorem Postgres.lawful_outbox : Postgres.outbox.Lawful where
  claim h := by
    obtain ⟨_, -, hfind, hupd⟩ := Postgres.claim_eq_ok h
    obtain ⟨hmem, hstate⟩ := Table.mem_of_find? hfind
    refine ⟨hmem, ?_, _, _, hupd⟩
    rintro heq
    simp [heq, leasable] at hstate
  exhausted h := Postgres.claim_eq_ok h
  finalize h := by
    simp only [outbox, Postgres.finalize, bind_eq_ok, update_eq_ok, pure_inj] at h
    obtain ⟨_, hupd, rfl⟩ := h
    exact .inr hupd
  audit h := by
    unfold outbox Postgres.audit at h
    dsimp only at h
    split at h
    . rw [← Except.ok.inj h]
    . simp only [bind_eq_ok, insert_eq_ok] at h
      obtain ⟨_, -, h⟩ := h
      rw [← Except.ok.inj h]

end Events

namespace Delivery

variable {backend : Backend} {authority : Authority} {s₀ s s' : System}

inductive Moves (s : System) (r : OutboxRow) : OutboxRow → Prop where
  | same : Moves s r r
  | claimed {token : String} {start stop : ℕ} (h : r.state ≠ .delivered)
      : Moves s r { r with state := .claimed token start stop }
  | released {eventId token : String} (h : r.isLeasedBy eventId token = true)
      : Moves s r { r with state := .pending }
  | delivered {w left : ℕ} {delivered : List String} {token : String} {event : OutboxRow}
      (hw : s.workers w = .returned left delivered token event)
      (h : r.isLeasedBy event.eventId token = true) : Moves s r { r with state := .delivered }

variable {t : Table OutboxRow} {r event : OutboxRow} {w : ℕ}

omit [Platform] in
theorem moves_update {p : OutboxRow → Bool}
    (hr : r ∈ t) (h : t.update? p (fun r => { r with state }) = some t')
    (hmoves : p r = true → Moves s r { r with state }) : ∃ r' ∈ t', Moves s r r' := by
  by_cases hp : p r
  . exact ⟨_, (Table.mem_update? h).mpr (.inr ⟨r, hr, hp, rfl⟩), hmoves hp⟩
  . exact ⟨r, (Table.mem_update? h).mpr (.inl ⟨hr, Bool.eq_false_iff.mpr hp⟩), .same⟩

omit [Platform] in
theorem eq_of_eventSequence (ha : a ∈ t) (hb : b ∈ t)
    (h : a.eventSequence = b.eventSequence) : a = b := by
  refine Table.eq_of_key (·.eventSequence) ha hb h ?_
  intro a b hab
  simp only [TableSchema.compatible, Bool.and_eq_true, decide_eq_true_eq] at hab
  exact hab.1.1.1.1.ne

theorem Step.moves (hlawful : backend.Lawful) (h : Step backend authority s s')
    (hr : r ∈ s.store.outbox) : ∃ r' ∈ s'.store.outbox, Moves s r r' := by
  cases h with
  | transaction hop hstep =>
    exact ⟨r, (outbox_prefix_of_step hop hstep).subset hr, .same⟩
  | tick | call | draw | deliver | fail | count | stop => exact ⟨r, hr, .same⟩
  | claim hw hclaim =>
    obtain ⟨hevent, hstate, _, _, hupd⟩ := hlawful.claim hclaim
    refine moves_update hr hupd fun hseq => .claimed ?_
    rwa [eq_of_eventSequence hr hevent (of_decide_eq_true hseq)]
  | exhausted hw hclaim =>
    rw [hlawful.exhausted hclaim]
    exact ⟨r, hr, .same⟩
  | release hw hrelease =>
    simp only [releaseOutbox, bind_eq_ok, update_eq_ok, pure_inj] at hrelease
    obtain ⟨_, hupd, rfl⟩ := hrelease
    exact moves_update hr hupd .released
  | finalize hw hfinalize =>
    rcases hlawful.finalize hfinalize with hsame | hupd
    . exact ⟨r, hsame.symm ▸ hr, .same⟩
    . exact moves_update hr hupd (.delivered hw)
  | audit hw haudit =>
    exact ⟨r, (hlawful.audit haudit).symm ▸ hr, .same⟩

structure Held (s : System) : Prop where
  drawn : ∀ w token, (s.workers w).token? = some token → token ∈ s.tokens
  distinct : ∀ w w' token, (s.workers w).token? = some token →
    (s.workers w').token? = some token → w = w'
  sink : ∀ w left delivered token event, s.workers w = .returned left delivered token event →
    (w, token, event.eventId) ∈ s.sink

def Idle (s : System) : Prop :=
  ∀ w, s.workers w = .idle

omit [Platform] in
theorem Idle.held (h : Idle s) : Held s where
  drawn w token hw := by simp [h w, Phase.token?] at hw
  distinct w w' token hw := by simp [h w, Phase.token?] at hw
  sink w _ _ _ _ hw := by simp [h w] at hw

omit [Platform] in
theorem Held.enter {t : System} {phase} (h : Held s) (hworkers : t.workers = s.workers)
    (htokens : s.tokens ⊆ t.tokens) (hsinks : s.sink ⊆ t.sink)
    (htoken : ∀ token, phase.token? = some token →
      (s.workers w).token? = some token ∨ token ∈ t.tokens ∧ token ∉ s.tokens)
    (hsink : ∀ left delivered token event, phase = .returned left delivered token event →
      (w, token, event.eventId) ∈ t.sink)
    : Held (t.enter w phase) := by
  have hcases : ∀ v token, ((t.enter w phase).workers v).token? = some token →
      (s.workers v).token? = some token ∨ v = w ∧ token ∈ t.tokens ∧ token ∉ s.tokens := by
    intro v token hv
    by_cases hvw : v = w
    . subst hvw
      simpa using htoken token (by simpa [System.enter] using hv)
    . exact .inl (by simpa [System.enter, hvw, hworkers] using hv)
  refine ⟨fun v token hv => ?_, fun v v' token hv hv' => ?_,
    fun v left delivered token event hv => ?_⟩
  . rcases hcases v token hv with hold | ⟨-, hmem, -⟩
    . exact htokens (h.drawn v token hold)
    . exact hmem
  . rcases hcases v token hv with hold | ⟨hvw, -, hfresh⟩ <;>
      rcases hcases v' token hv' with hold' | ⟨hvw', -, hfresh'⟩
    . exact h.distinct v v' token hold hold'
    . exact absurd (h.drawn v token hold) hfresh'
    . exact absurd (h.drawn v' token hold') hfresh
    . exact hvw.trans hvw'.symm
  . by_cases hvw : v = w
    . subst hvw
      exact hsink left delivered token event (by simpa [System.enter] using hv)
    . exact hsinks (h.sink v left delivered token event
        (by simpa [System.enter, hvw, hworkers] using hv))

theorem Step.held (h : Step backend authority s s') (hs : Held s) : Held s' := by
  cases h with
  | transaction _ _ => exact ⟨hs.drawn, hs.distinct, hs.sink⟩
  | tick _ => exact ⟨hs.drawn, hs.distinct, hs.sink⟩
  | draw hw hfresh =>
    exact hs.enter rfl (List.subset_cons_self _ _) (List.Subset.refl _)
      (by simp [Phase.token?, hfresh]) (by simp)
  | deliver hw =>
    refine hs.enter rfl (List.Subset.refl _) (List.subset_cons_self _ _)
      (fun t ht => .inl (hw ▸ ht)) ?_
    intro l d t e he
    cases he
    exact List.mem_cons_self
  | claim hw _ | fail hw =>
    exact hs.enter rfl (List.Subset.refl _) (List.Subset.refl _)
      (fun t ht => .inl (hw ▸ ht)) (by simp)
  | call | exhausted | release | finalize | count | audit | stop =>
    exact hs.enter rfl (List.Subset.refl _) (List.Subset.refl _) (by simp [Phase.token?]) (by simp)

abbrev Reaches (backend : Backend) (authority : Authority) : System → System → Prop :=
  Relation.ReflTransGen (Step backend authority)

theorem Reaches.held (h : Reaches backend authority s₀ s) (hidle : Idle s₀) : Held s := by
  induction h with
  | refl => exact hidle.held
  | tail _ hstep ih => exact hstep.held ih

def Claims (s s' : System) (w : ℕ) (now : Int) (event : OutboxRow) : Prop :=
  ∃ left delivered token, s.workers w = .claiming left delivered token now ∧
    s'.workers w = .delivering left delivered token event

def Ordered (s : System) (event : OutboxRow) : Prop :=
  ∀ r ∈ s.store.outbox, r.eventSequence < event.eventSequence → r.state = .delivered

/--
No event is lost; a delivered one stays as it is; and one becomes delivered only through the one
worker that holds its current lease, after that worker's delivery of it returned.
-/
def Fences (s s' : System) : Prop :=
  ∀ r ∈ s.store.outbox, ∃ r' ∈ s'.store.outbox, r'.identity = r.identity ∧
    (r.state = .delivered → r' = r) ∧
    (r.state ≠ .delivered → r'.state = .delivered →
      ∃ w token start stop, r.state = .claimed token start stop ∧
        (w, token, r.eventId) ∈ s.sink ∧
        ∀ v, (s.workers v).token? = some token ↔ v = w)

omit [Platform] in
theorem eq_claimed_of_isLeasedBy (h : r.isLeasedBy eventId token)
    : r.eventId = eventId ∧ ∃ start stop, r.state = .claimed token start stop := by
  simp only [OutboxRow.isLeasedBy, Bool.and_eq_true, decide_eq_true_eq] at h
  obtain ⟨hid, h⟩ := h
  split at h
  . next leaseToken start stop hstate =>
    exact ⟨hid, start, stop, by rw [hstate, of_decide_eq_true h]⟩
  . simp at h
  . simp at h

theorem Step.fences (hlawful : backend.Lawful) (hs : Held s) (h : Step backend authority s s')
    : Fences s s' := by
  intro r hr
  obtain ⟨r', hr', hmoves⟩ := h.moves hlawful hr
  refine ⟨r', hr', ?_⟩
  cases hmoves with
  | same => exact ⟨rfl, fun _ => rfl, fun hstate hdelivered => absurd hdelivered hstate⟩
  | claimed hstate => exact ⟨rfl, fun hdelivered => absurd hdelivered hstate, by simp⟩
  | released hleased =>
    obtain ⟨-, _, _, hstate⟩ := eq_claimed_of_isLeasedBy hleased
    exact ⟨rfl, by simp [hstate], by simp⟩
  | delivered hw hleased =>
    rename_i w left delivered token event
    obtain ⟨hid, start, stop, hstate⟩ := eq_claimed_of_isLeasedBy hleased
    refine ⟨rfl, by simp [hstate], fun _ _ => ⟨w, token, start, stop, hstate, ?_, fun v => ?_⟩⟩
    . rw [hid]
      exact hs.sink w left delivered token event hw
    . have htoken : (s.workers w).token? = some token := by rw [hw]; rfl
      exact ⟨fun hv => hs.distinct v w token hv htoken, fun hv => hv ▸ htoken⟩

theorem Step.claims (h : Step backend authority s s') (hclaims : Claims s s' w now event)
    : ∃ token store, backend.claim s.store token now = .ok (some event, store) := by
  obtain ⟨left, delivered, token, hbefore, hafter⟩ := hclaims
  -- Only `claim` enters `delivering`, and only for the worker that was claiming.
  have hother {t : System} {v : ℕ} {phase : Phase} (hworkers : t.workers = s.workers)
      (hphase : (t.enter v phase).workers w = .delivering left delivered token event)
      : v = w ∧ phase = .delivering left delivered token event := by
    by_cases hvw : w = v
    . subst hvw
      exact ⟨rfl, by simpa [System.enter] using hphase⟩
    . simp [System.enter, hvw, hworkers, hbefore] at hphase
  cases h with
  | transaction _ _ => simp [hbefore] at hafter
  | tick _ => simp [hbefore] at hafter
  | claim hw hclaim =>
    obtain ⟨rfl, hphase⟩ := hother rfl hafter
    cases hphase
    rw [hbefore] at hw
    cases hw
    exact ⟨_, _, hclaim⟩
  | call | draw | exhausted | deliver | fail | release | finalize | count | audit | stop =>
    cases (hother rfl hafter).2

omit [Platform] in
theorem lt_of_append (hrows : t.rows = before ++ event :: after) (hr : r ∈ t)
    : r.eventSequence < event.eventSequence ↔ r ∈ before := by
  have hdist := t.distinct
  rw [hrows, List.pairwise_append, List.pairwise_cons] at hdist
  have hlt {a b : OutboxRow} (h : TableSchema.compatible a b)
      : a.eventSequence < b.eventSequence := by
    simp only [TableSchema.compatible, Bool.and_eq_true, decide_eq_true_eq] at h
    exact h.1.1.1.1
  rw [Table.mem_def, hrows, List.mem_append, List.mem_cons] at hr
  constructor
  . intro hseq
    rcases hr with hr | rfl | hr
    . exact hr
    . exact absurd hseq (lt_irrefl _)
    . exact absurd hseq (hlt (hdist.2.1.1 r hr)).not_gt
  . intro hr
    exact hlt (hdist.2.2 r hr event List.mem_cons_self)

omit [Platform] in
theorem forall_lt_of_find? {p : OutboxRow → Bool} (h : t.find? p = some event)
    : ∀ r ∈ t, r.eventSequence < event.eventSequence → p r = false := by
  obtain ⟨-, before, _, hrows, hbefore⟩ := List.find?_eq_some_iff_append.mp h
  intro r hr hseq
  simpa using hbefore r ((lt_of_append hrows hr).mp hseq)

/--
Over SQLite, an event is leased when every event before it has been delivered, and deliveries are
fenced.
-/
theorem sqlite_outbox_ordered_and_fenced (authority : Authority) (hidle : Idle s₀)
    (hrun : Reaches Sqlite.outbox authority s₀ s) (hstep : Step Sqlite.outbox authority s s')
    : (∀ w now event, Claims s s' w now event → Ordered s event) ∧ Fences s s' := by
  refine ⟨fun w now event hclaims r hr hseq => ?_,
    hstep.fences Sqlite.lawful_outbox (hrun.held hidle)⟩
  obtain ⟨_, _, hclaim⟩ := hstep.claims hclaims
  simpa using forall_lt_of_find? (claimOutbox_eq_ok hclaim).1 r hr hseq

/--
Over PostgreSQL, deliveries are fenced; and when an event is leased, every event before it has been
delivered exactly if none of them is under a lease that still runs.
-/
theorem postgres_outbox_ordered_iff (authority : Authority) (hidle : Idle s₀)
    (hrun : Reaches Postgres.outbox authority s₀ s) (hstep : Step Postgres.outbox authority s s')
    : (∀ w now event, Claims s s' w now event → (Ordered s event ↔
        ∀ r ∈ s.store.outbox, r.eventSequence < event.eventSequence →
          r.state.leased now.toNat = false)) ∧
      Fences s s' := by
  refine ⟨fun w now event hclaims => ?_, hstep.fences Postgres.lawful_outbox (hrun.held hidle)⟩
  obtain ⟨token, _, hclaim⟩ := hstep.claims hclaims
  obtain ⟨clock, hclock, hfind, -⟩ := Postgres.claim_eq_ok hclaim
  have hnow : now.toNat = clock := by
    unfold trustedNow at hclock
    split at hclock
    . exact Except.ok.inj hclock
    . cases hclock
  refine forall₂_congr fun r hr => forall_congr' fun hseq => ?_
  have hbefore := forall_lt_of_find? hfind r hr hseq
  -- What the query passes over is delivered or leased.
  rw [hnow]
  cases hstate : r.state with
  | pending => simp [hstate, Postgres.leasable] at hbefore
  | claimed token start stop =>
    simpa [hstate, Postgres.leasable, OutboxState.leased] using hbefore
  | delivered => simp [OutboxState.leased]

end Delivery

end Apcc

namespace Apcc.Sample

open Delivery

def event (sequence : ℕ) (eventId : String) (state : OutboxState) : OutboxRow :=
  ⟨sequence, eventId, .commit, eventId, [], eventId, sequence, state⟩

def twoEvents (first second : OutboxState) (hfirst : first.check = true)
    (hsecond : second.check = true) : Store :=
  { Store.empty with
    outbox :=
      { rows := [event 1 "first" first, event 2 "second" second]
        checked := by simp [TableSchema.check, event, hfirst, hsecond, maxSafeInteger]
        distinct := by simp [TableSchema.compatible, event] } }

def resting : System :=
  ⟨twoEvents .pending .pending rfl rfl, 0, [], fun _ => .idle, []⟩

theorem idle_resting : Idle resting := fun _ => rfl

def ready (s : System) (w : ℕ) (token : String) : System :=
  { s with tokens := token :: s.tokens }.enter w (.claiming 0 [] token s.clock)

theorem reaches_ready (hw : s.workers w = .idle) (htoken : token ∉ s.tokens)
    : Reaches backend authority s (ready s w token) := by
  have hcall : Step backend authority s (s.enter w (.looping 1 [])) :=
    @Step.call _ backend authority s w 1 "1" hw rfl
  have hdraw : Step backend authority (s.enter w (.looping 1 []))
      ({ s.enter w (.looping 1 []) with tokens := token :: s.tokens }.enter w
        (.claiming 0 [] token s.clock)) :=
    .draw (by simp [System.enter]) htoken
  have hready : ({ s.enter w (.looping 1 []) with tokens := token :: s.tokens }.enter w
      (.claiming 0 [] token s.clock)) = ready s w token := by
    simp [System.enter, ready]
  exact .tail (.single hcall) (hready ▸ hdraw)

def leased (s : System) (w : ℕ) (token : String) (store : Store) (row : OutboxRow) : System :=
  { ready s w token with store }.enter w (.delivering 0 [] token row)

theorem step_leased (h : backend.claim s.store token s.clock = .ok (some row, store))
    : Step backend authority (ready s w token) (leased s w token store row) :=
  .claim (by simp [ready, System.enter]) h

theorem claims_leased (s : System) (w : ℕ) (token : String) (store : Store) (row : OutboxRow)
    : Claims (ready s w token) (leased s w token store row) w s.clock row :=
  ⟨0, [], token, by simp [ready, System.enter], by simp [leased, System.enter]⟩

def oneLeased : Store :=
  twoEvents (.claimed "a" 0 leaseMs) .pending rfl rfl

def firstLeased : System :=
  leased resting 0 "a" oneLeased (event 1 "first" .pending)

theorem sqlite_claim_resting
    : claimOutbox resting.store "a" 0 = .ok (some (event 1 "first" .pending), oneLeased) :=
  rfl

theorem postgres_claim_resting
    : Postgres.claim resting.store "a" 0 = .ok (some (event 1 "first" .pending), oneLeased) :=
  rfl

def bothLeased : Store :=
  twoEvents (.claimed "a" 0 leaseMs) (.claimed "b" 0 leaseMs) rfl rfl

theorem postgres_claim_oneLeased
    : Postgres.claim oneLeased "b" 0 = .ok (some (event 2 "second" .pending), bothLeased) :=
  rfl

theorem reaches_finalized (h : backend.finalize store row.eventId token = .ok store')
    : ∃ s', Reaches backend authority (leased s w token store row) s' ∧ s'.store = store' ∧
        s'.clock = s.clock ∧ s'.tokens = token :: s.tokens ∧
        ∀ v, v ≠ w → s'.workers v = s.workers v := by
  have hdelivering : (leased s w token store row).workers w = .delivering 0 [] token row := by
    simp [leased, System.enter]
  have hreturned : (System.enter { leased s w token store row with
      sink := (w, token, row.eventId) :: s.sink } w (.returned 0 [] token row)).workers w
      = .returned 0 [] token row := by
    simp [System.enter]
  refine ⟨_, .tail (.single (.deliver hdelivering)) (.finalize hreturned h), rfl, rfl, rfl, ?_⟩
  simp +contextual [leased, ready, System.enter]

theorem exists_oneDelivered
    : ∃ store store', finalizeOutbox oneLeased "first" "a" = .ok store ∧
        claimOutbox store "b" 0 = .ok (some (event 2 "second" .pending), store') ∧
        event 1 "first" .delivered ∈ store.outbox :=
  ⟨_, _, rfl, rfl, List.mem_cons_self⟩

/-- The second event is leased to another worker once the first one has been delivered. -/
theorem sqlite_outbox_ordered_and_fenced_delivered
    : ∃ s s', Claims s s' 1 0 (event 2 "second" .pending) ∧
        event 1 "first" .delivered ∈ s.store.outbox ∧
        Ordered s (event 2 "second" .pending) ∧ Fences s s' := by
  obtain ⟨_, store, hfinal, hclaim, hdelivered⟩ := exists_oneDelivered
  obtain ⟨s, hrun, rfl, hclock, htokens, hworkers⟩ := reaches_finalized (s := resting) (w := 0)
    (show Sqlite.outbox.finalize oneLeased (event 1 "first" .pending).eventId "a" = _ from hfinal)
  have hclock : s.clock = 0 := hclock
  rw [← hclock] at hclaim
  have hfirst : Reaches Sqlite.outbox authority resting firstLeased :=
    .tail (reaches_ready rfl (by simp [resting])) (step_leased sqlite_claim_resting)
  have hready : Reaches Sqlite.outbox authority resting (ready s 1 "b") :=
    (hfirst.trans hrun).trans (reaches_ready (hworkers 1 (by decide)) (by simp [htokens, resting]))
  have hclaims := claims_leased s 1 "b" store (event 2 "second" .pending)
  rw [hclock] at hclaims
  obtain ⟨hordered, hfences⟩ := sqlite_outbox_ordered_and_fenced authority idle_resting hready
    (step_leased (show Sqlite.outbox.claim s.store "b" s.clock = _ from hclaim))
  exact ⟨_, _, hclaims, hdelivered, hordered _ _ _ hclaims, hfences⟩

theorem postgres_outbox_ordered_iff_resting
    : Claims (ready resting 0 "a") firstLeased 0 0 (event 1 "first" .pending) ∧
      Ordered (ready resting 0 "a") (event 1 "first" .pending) ∧
      Fences (ready resting 0 "a") firstLeased := by
  have hclaims := claims_leased resting 0 "a" oneLeased (event 1 "first" .pending)
  obtain ⟨hordered, hfences⟩ := postgres_outbox_ordered_iff authority idle_resting
    (reaches_ready rfl (by simp [resting])) (step_leased postgres_claim_resting)
  refine ⟨hclaims, (hordered _ _ _ hclaims).mpr ?_, hfences⟩
  simp [ready, resting, System.enter, twoEvents, Table.mem_def, event, OutboxState.leased]

/-- While the first event is being delivered, the second one is leased to another worker. -/
theorem postgres_outbox_overtakes
    : ∃ s s' w now row, Reaches Postgres.outbox authority resting s ∧
        Step Postgres.outbox authority s s' ∧ Claims s s' w now row ∧ ¬ Ordered s row := by
  have hfirst : Reaches Postgres.outbox authority resting firstLeased :=
    .tail (reaches_ready rfl (by simp [resting])) (step_leased postgres_claim_resting)
  have hready : Reaches Postgres.outbox authority firstLeased (ready firstLeased 1 "b") :=
    reaches_ready rfl (by decide)
  refine ⟨_, _, 1, 0, _, hfirst.trans hready, step_leased postgres_claim_oneLeased,
    claims_leased firstLeased 1 "b" bothLeased (event 2 "second" .pending), ?_⟩
  intro hordered
  have hstate := hordered (event 1 "first" (.claimed "a" 0 leaseMs)) List.mem_cons_self (by decide)
  cases hstate

end Apcc.Sample
