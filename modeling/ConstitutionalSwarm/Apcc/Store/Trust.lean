import ConstitutionalSwarm.Apcc.Store.Persistence

namespace Apcc

open List

theorem outboxOperations_insert (h : s.outbox.insert? row = some s'.outbox) (kind : OutboxKind)
    : outboxOperations s' kind =
      outboxOperations s kind ++ if row.eventKind = kind then [row.operationId] else [] := by
  rw [outboxOperations, Table.rows_of_insert? h, filter_append, map_append, outboxOperations]
  congr 1
  split <;> simp [*]

variable [Platform] {cfg : AuthorityConfig} {s s' : Store}

def chainHead (prior : String) (rows : List TrustRow) : String :=
  rows.getLast?.elim prior (·.entryDigest)

omit [Platform] in
theorem chainHead_cons (prior : String) (row : TrustRow) (rows : List TrustRow)
    : chainHead prior (row :: rows) = chainHead row.entryDigest rows := by
  cases rows with
  | nil => rfl
  | cons a rows => simp [chainHead, getLast?_cons]

variable {expected : Nat} {prior : String} {facts : List TrustFact}

theorem validateTrustRows_append (hrows : validateTrustRows s expected prior rows = .ok facts)
    (hrow : validateTrustRow s (expected + rows.length) (chainHead prior rows) row = .ok fact)
    : validateTrustRows s expected prior (rows ++ [row]) = .ok (facts ++ [fact]) := by
  induction rows generalizing expected prior facts with
  | nil =>
    cases hrows
    simp only [nil_append, validateTrustRows, bind_eq_ok, pure_eq_ok]
    exact ⟨fact, hrow, [], rfl, rfl⟩
  | cons first rows ih =>
    simp only [validateTrustRows, cons_append, bind_eq_ok, pure_inj] at hrows ⊢
    obtain ⟨fact', hfact', facts', hfacts', rfl⟩ := hrows
    refine ⟨fact', hfact', facts' ++ [fact], ih hfacts' ?_, rfl⟩
    rw [← chainHead_cons, show expected + 1 + rows.length = expected + (rows.length + 1) by omega]
    exact hrow

theorem sequence_of_validateTrustRow (h : validateTrustRow s expected prior row = .ok fact)
    : row.sequence = expected ∧ fact.sequence = expected := by
  unfold validateTrustRow at h
  simp only [bind_eq_ok, exists_unit, ensure_eq_ok, Bool.and_eq_true, decide_eq_true_eq] at h
  obtain ⟨⟨hseq, -⟩, -, -, entry, -, h⟩ := h
  refine ⟨hseq, ?_⟩
  split at h
  . simp only [bind_eq_ok, exists_unit] at h
    obtain ⟨-, -, -, -, -, -, h⟩ := h
    split at h
    . simp only [bind_eq_ok, exists_unit, pure_inj] at h
      rw [← h.2]
      exact hseq
    . simp at h
  . simp at h

theorem sequences_of_validateTrustRows (h : validateTrustRows s expected prior rows = .ok facts)
    : rows.map (·.sequence) = range' expected rows.length ∧
      facts.map (·.sequence) = range' expected rows.length := by
  induction rows generalizing expected prior facts with
  | nil =>
    cases h
    exact ⟨rfl, rfl⟩
  | cons row rows ih =>
    simp only [validateTrustRows, bind_eq_ok, pure_inj] at h
    obtain ⟨_, hfact, facts, hfacts, rfl⟩ := h
    obtain ⟨hrow, hfact'⟩ := sequence_of_validateTrustRow hfact
    obtain ⟨hrows, hfacts'⟩ := ih hfacts
    simp [hrow, hfact', hrows, hfacts', range'_succ]

theorem trustRow_eq (h : validateTrustLog s = .ok facts) (kind subject auditEventId : String)
    : let sequence := s.trustLog.rows.length + 1
      let prior := chainHead genesisDigest s.trustLog.rows
      trustRow s kind subject auditEventId = ⟨sequence, auditEventId, prior,
            sha256Digest (trustEntryJson sequence prior kind subject auditEventId).encodeUTF8,
            trustEntryJson sequence prior kind subject auditEventId⟩ := by
  have hseq : s.trustHead?.elim 1 (·.sequence + 1) = s.trustLog.rows.length + 1 := by
    obtain ⟨hrows, -⟩ := sequences_of_validateTrustRows h
    rw [Store.trustHead?]
    cases hlast : s.trustLog.rows.getLast? with
    | none => simp [getLast?_eq_none_iff.mp hlast]
    | some row =>
      have hmap := congrArg getLast? hrows
      rw [getLast?_map, hlast, getLast?_range'] at hmap
      split at hmap
      . simp at hmap
      . simp only [Option.map_some, Option.some.injEq] at hmap
        simp only [Option.elim_some, hmap]
        omega
  simp only [trustRow, hseq]
  rfl

section Insert

variable {kind : OutboxKind} {operationId digest subject auditEventId trustKind : String}
  {payload : Bytes} {facts : List TrustFact}

def nextFact (s : Store) (kind subject auditEventId : String) : TrustFact :=
  ⟨s.trustLog.rows.length + 1, kind, subject, auditEventId⟩

structure TrustWrites (s s' : Store) (trustKind subject auditEventId : String) (kind : OutboxKind)
    (operationId digest : String) (payload : Bytes) : Prop where
  trustLog : s.trustLog.insert? (trustRow s trustKind subject auditEventId) = some s'.trustLog
  outbox : s.outbox.insert? (outboxRow kind operationId digest payload
    (trustRow s trustKind subject auditEventId)) = some s'.outbox

theorem validateOutboxRow_next (htrust : validateTrustLog s = .ok facts)
    (hpay : validateOutboxPayload s' (decodedCertificates cfg s')
      (nextFact s trustKind subject auditEventId)
      (outboxRow kind operationId digest payload (trustRow s trustKind subject auditEventId))
        = .ok ())
    : validateOutboxRow s' (decodedCertificates cfg s')
        (facts ++ [nextFact s trustKind subject auditEventId])
        (outboxRow kind operationId digest payload (trustRow s trustKind subject auditEventId))
        = .ok () := by
  have hfind : (facts ++ [nextFact s trustKind subject auditEventId]).find?
      (·.sequence = s.trustLog.rows.length + 1)
        = some (nextFact s trustKind subject auditEventId) := by
    rw [find?_append, find?_eq_none.mpr, Option.none_or]
    . simp [nextFact]
    . intro fact hfact
      have hmem := mem_map_of_mem (f := TrustFact.sequence) hfact
      rw [(sequences_of_validateTrustRows htrust).2, mem_range'_1] at hmem
      simp only [decide_eq_true_eq]
      omega
  have hseq : (outboxRow kind operationId digest payload
      (trustRow s trustKind subject auditEventId)).eventSequence = s.trustLog.rows.length + 1 := by
    rw [outboxRow, trustRow_eq htrust]
  simp only [validateOutboxRow, hseq, hfind, bind_eq_ok, exists_unit, ensure_eq_ok,
    decide_eq_true_eq]
  refine ⟨?_, rfl, hpay, rfl⟩
  rw [outboxRow, trustRow_eq htrust]

variable (h : TrustWrites s s' trustKind subject auditEventId kind operationId digest payload)
  (hgrows : Grows s s') (htrust : validateTrustLog s = .ok facts)

include h hgrows htrust

theorem TrustWrites.log_valid (haudit : (audit? s' auditEventId).isSome)
    (hkind : trustKind = "commit" ∨ trustKind = "control")
    : validateTrustLog s' = .ok (facts ++ [nextFact s trustKind subject auditEventId]) := by
  have hcheck := (Table.check_of_insert? h.trustLog).1
  have hrows := Table.rows_of_insert? h.trustLog
  rw [trustRow_eq htrust] at hcheck hrows
  simp only [TableSchema.check, Bool.and_eq_true, decide_eq_true_eq] at hcheck
  rw [validateTrustLog, hrows]
  refine validateTrustRows_append (validateTrustRows_grows hgrows htrust) ?_
  rw [Nat.add_comm 1]
  exact validateTrustRow_entry hcheck.2 haudit hkind

theorem OutboxOk.insert (hs : OutboxOk s (decodedCertificates cfg s) facts)
    (hpay : validateOutboxPayload s' (decodedCertificates cfg s')
      (nextFact s trustKind subject auditEventId)
      (outboxRow kind operationId digest payload (trustRow s trustKind subject auditEventId))
        = .ok ())
    (hcoms : ∀ id, id ∈ committedIds s' ↔
      id ∈ committedIds s ∨ (kind = .commit ∧ id = operationId))
    (hctrls : ∀ id, id ∈ s'.controlEvents.rows.map (·.operationId) ↔
      id ∈ s.controlEvents.rows.map (·.operationId) ∨ (kind = .control ∧ id = operationId))
    (hcount : (committedIds s').length + s'.controlEvents.rows.length
      = (committedIds s).length + s.controlEvents.rows.length + 1)
    : OutboxOk s' (decodedCertificates cfg s')
        (facts ++ [nextFact s trustKind subject auditEventId]) where
  rows := by
    intro r hr
    rcases (Table.mem_insert? h.outbox).mp hr with hr | rfl
    . have hcheck := s.outbox.checked r hr
      simp only [TableSchema.check, Bool.and_eq_true] at hcheck
      exact validateOutboxRow_grows hgrows (prefix_append _ _) hcheck.2 (hs.rows r hr)
    . exact validateOutboxRow_next htrust hpay
  commits := by
    intro id
    rw [outboxOperations_insert h.outbox, mem_append, hs.commits id, hcoms id]
    apply or_congr_right
    cases kind <;> simp [outboxRow]
  controls := by
    intro id
    rw [outboxOperations_insert h.outbox, mem_append, hs.controls id, hctrls id]
    apply or_congr_right
    cases kind <;> simp [outboxRow]
  count := by
    rw [length_append, length_singleton, hs.count, hcount]

end Insert

end Apcc
