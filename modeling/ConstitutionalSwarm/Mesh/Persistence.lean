import ConstitutionalSwarm.Mesh.SettlementReceipt

namespace Mesh

open Raising List
open PyValue (Dict)

variable [Interpreter]

theorem receiptDigestOf_normalized (h : normalizeReceiptDigest digest = .ok normalized)
    : receiptDigestOf (optionalText normalized) = .ok normalized := by
  cases digest with
  | none =>
    cases h
    rfl
  | some value =>
    simp only [normalizeReceiptDigest] at h
    split at h
    . cases h
      rfl
    . split at h
      . next hne hcanon =>
        cases h
        simp only [optionalText, receiptDigestOf, normalizeReceiptDigest, hne, hcanon, if_true,
          if_false]
      . simp at h

theorem votesOf_dicts (votes : List Dict) : votesOf (.list (votes.map .dict)) = .ok votes := by
  have hdicts : votes.mapM (dictOf ∘ PyValue.dict) = .ok (votes.map id) :=
    Except.mapM_of_forall fun _ _ => rfl
  cases votes with
  | nil => rfl
  | cons vote votes =>
    rw [map_id] at hdicts
    rw [votesOf, if_pos (by simp [PyValue.truthy])]
    simp only [PyValue.elements, ok_bind, mapM_map]
    exact hdicts

theorem recordFromPayload_payloadFromRecord (h : payloadFromRecord record = .ok payload)
    : ∃ digest, normalizeReceiptDigest record.receiptDigest = .ok digest ∧
      recordFromPayload payload = .ok { record with receiptDigest := digest } := by
  simp only [payloadFromRecord, bind_eq_ok, pure_inj] at h
  obtain ⟨digest, hdig, rfl⟩ := h
  refine ⟨digest, hdig, ?_⟩
  simp only [recordFromPayload, PyValue.Dict.get, getFlag, Assoc.lookup_cons, String.reduceEq,
    if_true, if_false, Option.getD_some, Option.map_some, dictOf, PyValue.toInt,
    receiptDigestOf_normalized hdig, votesOf_dicts, PyValue.truthy, ok_bind, pure_eq_ok]

namespace SettlementStore

variable {store : SettlementStore}

def Readable (store : SettlementStore) : Prop :=
  ∀ row ∈ store.rows, ∃ record, recordFromPayload row.2 = .ok record

def rowId (store : SettlementStore) (row : String × Dict) : Option String :=
  match store.backend with
  | .sqlite => some row.1
  | .jsonl | .memory => (recordFromPayload row.2).toOption.map recordId

def Absent (store : SettlementStore) (assignmentId : String) : Prop :=
  ∀ row ∈ store.rows, store.rowId row ≠ some assignmentId

omit [Interpreter] in
theorem mem_listed {rows : List (String × Dict)} {payload}
    : payload ∈ store.listed rows ↔ ∃ row ∈ rows, row.2 = payload := by
  unfold listed
  split <;> simp [mem_mergeSort]

theorem Readable.exists_loadAll (h : store.Readable)
    : ∃ records, store.loadAll = .ok records ∧
      ∀ record, record ∈ records ↔ ∃ row ∈ store.rows, recordFromPayload row.2 = .ok record := by
  refine ⟨_, Except.mapM_eq_ok.mpr ⟨?_, rfl⟩, ?_⟩
  . intro payload hpay
    obtain ⟨row, hrow, rfl⟩ := mem_listed.mp hpay
    exact h row hrow
  . intro record
    simp only [mem_filterMap, mem_listed, Except.toOption_eq_some]
    constructor
    . rintro ⟨_, ⟨row, hrow, rfl⟩, hrec⟩
      exact ⟨row, hrow, hrec⟩
    . rintro ⟨row, hrow, hrec⟩
      exact ⟨_, ⟨row, hrow, rfl⟩, hrec⟩

theorem Readable.exists_knownIds (h : store.Readable)
    : ∃ ids, store.knownIds = .ok ids ∧
      ∀ assignmentId, assignmentId ≠ "" → (assignmentId ∉ ids ↔ store.Absent assignmentId) := by
  obtain ⟨_, hrecords, hmem⟩ := h.exists_loadAll
  unfold knownIds Absent rowId
  cases store.backend with
  | sqlite =>
    refine ⟨_, rfl, fun assignmentId _ => ?_⟩
    simp only [mem_map, not_exists, not_and, ne_eq, Option.some.injEq]
  | jsonl | memory =>
    rw [hrecords]
    refine ⟨_, rfl, fun assignmentId hne => ?_⟩
    simp only [mem_filter, mem_map, hmem, ne_eq, decide_not, hne, decide_false, Bool.not_false,
      and_true, Option.map_eq_some_iff, Except.toOption_eq_some, not_exists, not_and]
    constructor
    . intro hids row hrow record hrec
      exact hids record ⟨row, hrow, hrec⟩
    . rintro hrows record ⟨row, hrow, hrec⟩
      exact hrows row hrow record hrec

theorem Readable.get_of_absent (h : store.Readable)
    (habsent : store.Absent assignmentId) : store.get assignmentId = .ok none := by
  obtain ⟨records, hrecords, hmem⟩ := h.exists_loadAll
  unfold get
  unfold Absent rowId at habsent
  cases hbackend : store.backend with
  | sqlite =>
    simp only [hbackend, ne_eq, Option.some.injEq] at habsent
    have hnone : store.rows.lookup assignmentId = none := by
      rw [Assoc.lookup_eq_none, mem_map]
      rintro ⟨row, hrow, heq⟩
      exact habsent row hrow heq
    rw [hnone]
    rfl
  | jsonl | memory =>
    simp only [hbackend, ne_eq, Option.map_eq_some_iff, Except.toOption_eq_some, not_exists,
      not_and] at habsent
    have hnone : records.find? (fun record => decide (recordId record = assignmentId)) = none := by
      rw [find?_eq_none]
      intro record hrec
      obtain ⟨row, hrow, hread⟩ := (hmem record).mp hrec
      simpa using habsent row hrow record hread
    rw [hrecords, ok_bind, hnone]
    rfl

def commit (store : SettlementStore) (assignmentId : String) (payload : Dict)
    (receipt : GovernanceReceipt) : SettlementStore :=
  { store with
    rows := store.rows ++ [(assignmentId, payload)]
    receipts := if store.backend.hasPath then Assoc.set assignmentId [receipt] store.receipts
      else store.receipts }

variable {record : SettlementRecord} {payload : Dict} {receipt : GovernanceReceipt}
  {assignmentId : String}

theorem recordId_of_itemText (h : itemText record.assignment "assignment_id" = .ok assignmentId)
    : recordId record = assignmentId := by
  simp only [itemText, bind_eq_ok, pure_inj] at h
  obtain ⟨_, hvalue, rfl⟩ := h
  unfold PyValue.Dict.item at hvalue
  split at hvalue
  . next hlook =>
    cases hvalue
    rw [recordId, getText, hlook]
  . simp at hvalue

theorem Readable.append_eq (h : store.Readable) (habsent : store.Absent assignmentId)
    (hne : assignmentId ≠ "") (hid : itemText record.assignment "assignment_id" = .ok assignmentId)
    (hpay : payloadFromRecord record = .ok payload)
    : store.append record =
      .ok { store with rows := store.rows ++ [(assignmentId, payload)] } := by
  obtain ⟨ids, hids, hmem⟩ := h.exists_knownIds
  have hfresh : assignmentId ∉ ids := (hmem assignmentId hne).mpr habsent
  simp only [append, hid, hids, hpay, hfresh, raiseIf, decide_false, Bool.false_eq_true,
    if_false, ok_bind, pure_eq_ok]

theorem Readable.persistBound_eq (h : store.Readable) (habsent : store.Absent assignmentId)
    (hne : assignmentId ≠ "") (hid : itemText record.assignment "assignment_id" = .ok assignmentId)
    (hpay : payloadFromRecord record = .ok payload)
    : persistBound store assignmentId record receipt =
      .ok (store.commit assignmentId payload receipt) := by
  have hnone : store.hasCommittedReceipt assignmentId = .ok false := by
    rw [hasCommittedReceipt, h.get_of_absent habsent]
    rfl
  unfold persistBound commit
  split
  . next hpath =>
    have hwritten : (store.writeReceipt assignmentId [receipt]).Readable := h
    have happ := hwritten.append_eq habsent hne hid hpay
    rw [hnone, ok_bind, happ]
    rfl
  . rw [h.append_eq habsent hne hid hpay]

variable {store' : SettlementStore}

structure Appends (store store' : SettlementStore) (record : SettlementRecord)
    (assignmentId : String) : Prop where
  id : itemText record.assignment "assignment_id" = .ok assignmentId
  rows : ∃ payload, payloadFromRecord record = .ok payload ∧
    store'.rows = store.rows ++ [(assignmentId, payload)]
  backend : store'.backend = store.backend

theorem Readable.of_appends (h : store.Readable)
    (happends : Appends store store' record assignmentId)
    : store'.Readable := by
  obtain ⟨_, hpay, hrows⟩ := happends.rows
  rw [Readable, hrows, forall_mem_append, forall_mem_singleton]
  obtain ⟨_, -, hread⟩ := recordFromPayload_payloadFromRecord hpay
  exact ⟨h, _, hread⟩

theorem Appends.absent_iff (happends : Appends store store' record assignmentId)
    : store'.Absent other ↔ store.Absent other ∧ assignmentId ≠ other := by
  obtain ⟨hid, ⟨payload, hpay, hrows⟩, hbackend⟩ := happends
  have hrow : store.rowId (assignmentId, payload) = some assignmentId := by
    obtain ⟨_, -, hread⟩ := recordFromPayload_payloadFromRecord hpay
    unfold rowId
    split
    . rfl
    . rw [hread]
      exact congrArg some (recordId_of_itemText hid)
    . rw [hread]
      exact congrArg some (recordId_of_itemText hid)
  have hrowId : store'.rowId = store.rowId := by
    funext row
    rw [rowId, rowId, hbackend]
  rw [Absent, Absent, hrowId, hrows, forall_mem_append, forall_mem_singleton, hrow, ne_eq,
    Option.some.injEq]

theorem appends_of_append (h : store.append record = .ok store')
    (hid : itemText record.assignment "assignment_id" = .ok assignmentId)
    : Appends store store' record assignmentId := by
  simp only [append, hid, ok_bind, bind_eq_ok, exists_unit, pure_inj] at h
  obtain ⟨_, -, -, payload, hpay, rfl⟩ := h
  exact ⟨hid, ⟨payload, hpay, rfl⟩, rfl⟩

theorem markPending_eq_ok (h : store.markPending record = .ok store')
    : ∃ pending, store' = { store with pending := pending } := by
  simp only [markPending, bind_eq_ok, pure_inj] at h
  obtain ⟨_, -, _, -, rfl⟩ := h
  exact ⟨_, rfl⟩

theorem appends_of_persistBound (h : persistBound store assignmentId record receipt = .ok store')
    (hid : itemText record.assignment "assignment_id" = .ok assignmentId)
    : Appends store store' record assignmentId := by
  unfold persistBound at h
  split at h
  . rw [bind_eq_ok] at h
    obtain ⟨_, -, h⟩ := h
    split at h
    . exact appends_of_append h hid
    . exact { appends_of_append h hid with }
  . exact appends_of_append h hid

end SettlementStore

end Mesh
