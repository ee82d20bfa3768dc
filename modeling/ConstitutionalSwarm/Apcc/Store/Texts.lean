import ConstitutionalSwarm.Apcc.CodecLemmas
import ConstitutionalSwarm.Apcc.Store.Integrity

namespace Apcc

open List Json

theorem loads_json (h : v.Canonical) : loads (json v) = .ok v :=
  loads_dumps_of_canonical _ false h

@[simp]
theorem canonical_optionalText (text : Option String) : (optionalText text).Canonical := by
  cases text with
  | none =>
    rw [optionalText, Json.Canonical]
    trivial
  | some _ => exact canonical_str _

def AtomicCommitRequest.persisted (request : AtomicCommitRequest) : AtomicCommitRequest :=
  { request with requestDigest := "" }

namespace AtomicCommitRequest

variable (request : AtomicCommitRequest)

@[simp]
theorem persisted_subject : request.persisted.subject = request.subject := rfl

@[simp]
theorem persisted_context : request.persisted.context = request.context := rfl

@[simp]
theorem persisted_evidence : request.persisted.evidence = request.evidence := rfl

@[simp]
theorem persisted_bindings : request.persisted.bindings = request.bindings := rfl

@[simp]
theorem persisted_signatures : request.persisted.signatures = request.signatures := rfl

@[simp]
theorem persisted_commitId : request.persisted.commitId = request.commitId := rfl

@[simp]
theorem persisted_nonce : request.persisted.nonce = request.nonce := rfl

@[simp]
theorem authorityRequestObject_persisted
    : authorityRequestObject request.persisted = authorityRequestObject request := rfl

@[simp]
theorem authorityRequestJson_persisted
    : authorityRequestJson request.persisted = authorityRequestJson request := rfl

@[simp]
theorem operationRequestJson_persisted (old : Option String)
    : operationRequestJson request.persisted old = operationRequestJson request old := rfl

section Identities

variable [Platform]

@[simp]
theorem operationIdentity_persisted (old : Option String)
    : operationIdentity request.persisted old = operationIdentity request old := rfl

@[simp]
theorem proposalIdentity_persisted
    : proposalIdentity request.persisted = proposalIdentity request := rfl

@[simp]
theorem publicRequestDigest_persisted
    : publicRequestDigest request.persisted = publicRequestDigest request := rfl

end Identities

end AtomicCommitRequest

@[simp]
theorem canonical_authorityRequestObject (request : AtomicCommitRequest)
    : (authorityRequestObject request).Canonical :=
  canonical_obj (by simp) (by simp only [map]; decide)

@[simp]
theorem canonical_operationRequestObject (request : AtomicCommitRequest) (old : Option String)
    : (operationRequestObject request old).Canonical :=
  canonical_obj (by simp) (by simp only [map]; decide)

variable {request : AtomicCommitRequest} {old : Option String} {kind : String}

theorem requestFromJson_authorityRequestJson (h : request.evidence.ExactKeys)
    : requestFromJson (authorityRequestJson request) = .ok request.persisted := by
  simp only [requestFromJson, authorityRequestJson,
    loads_json (canonical_authorityRequestObject request)]
  simp [authorityRequestObject, asObject, expectKeys, CertificateSubject.fromObject_toObject,
    CertificateContext.fromObject_toObject, CertificateEvidence.fromObject_toObject _ h,
    CertificateBindings.fromObject_toObject, CertificateSignatures.fromObject_toObject,
    AtomicCommitRequest.persisted]

theorem exactKeys_of_requestFromJson
    (h : requestFromJson (authorityRequestJson request) = .ok request')
    : request.evidence.ExactKeys := by
  rw [requestFromJson, authorityRequestJson,
    loads_json (canonical_authorityRequestObject request), ok_bind] at h
  simp only [authorityRequestObject, asObject, ok_bind, bind_eq_ok, exists_unit] at h
  obtain ⟨-, _, -, _, -, evidence, hevid, -⟩ := h
  rw [nested_cons_of_ne (by decide), nested_cons_of_ne (by decide), nested_cons_of_ne (by decide),
    nested_cons_self] at hevid
  exact CertificateEvidence.exactKeys_of_fromObject _ evidence hevid

theorem operationFromJson_operationRequestJson (h : request.evidence.ExactKeys)
    : operationFromJson (operationRequestJson request old) = .ok (request.persisted, old) := by
  have hreq := requestFromJson_authorityRequestJson h
  rw [authorityRequestJson] at hreq
  simp only [operationFromJson, operationRequestJson,
    loads_json (canonical_operationRequestObject request old)]
  cases old <;> simp [operationRequestObject, asObject, expectKeys, optionalText, operationOld,
    hreq]

theorem exactKeys_of_operationFromJson
    (h : operationFromJson (operationRequestJson request old) = .ok (request', old'))
    : request.evidence.ExactKeys := by
  rw [operationFromJson, operationRequestJson,
    loads_json (canonical_operationRequestObject request old), ok_bind] at h
  simp only [operationRequestObject, asObject, ok_bind, bind_eq_ok, exists_unit] at h
  obtain ⟨-, _, -, _, -, _, -, _, hobject, _, hreq, -⟩ := h
  rw [item_cons_of_ne (by decide), item_cons_of_ne (by decide), item_cons_self,
    Except.ok.injEq] at hobject
  subst hobject
  exact exactKeys_of_requestFromJson hreq

section Identities

variable [Platform]

def recordedOperation (request : AtomicCommitRequest) (old : Option String) : Indexed :=
  ⟨operationIdentity request old, request.subject.workflowId, request.persisted, old⟩

theorem validateCommitIndex_of_exactKeys (h : request.evidence.ExactKeys)
    : validateCommitIndex (indexRow request old) =
      .ok (request.commitId, recordedOperation request old) := by
  rw [validateCommitIndex, indexRow, operationFromJson_operationRequestJson h]
  simp [orInvalid, recordedOperation]

theorem validateCommitIndex_indexRow
    : validateCommitIndex (indexRow request old) = .ok entry ↔
      request.evidence.ExactKeys ∧ entry = (request.commitId, recordedOperation request old) := by
  constructor
  . intro h
    have hkeys : request.evidence.ExactKeys := by
      simp only [validateCommitIndex, indexRow, bind_eq_ok, Prod.exists] at h
      obtain ⟨_, _, hparse, -⟩ := h
      cases hread : operationFromJson (operationRequestJson request old) with
      | error => simp [hread, orInvalid] at hparse
      | ok parsed => exact exactKeys_of_operationFromJson hread
    rw [validateCommitIndex_of_exactKeys hkeys, Except.ok.injEq] at h
    exact ⟨hkeys, h.symm⟩
  . rintro ⟨hkeys, rfl⟩
    exact validateCommitIndex_of_exactKeys hkeys

end Identities

def eventFields (kind subject : String) (old : Option String) : Fields :=
  ("kind", .str kind) ::
    (old.toList.map fun old => ("old_certificate_digest", .str old)) ++ [("subject", .str subject)]

theorem canonical_eventFields (kind subject : String) (old : Option String)
    : (obj (eventFields kind subject old)).Canonical := by
  unfold eventFields
  cases old with
  | none => exact @Json.canonical_obj [_, _] (by simp) (by simp only [map]; decide)
  | some old => exact @Json.canonical_obj [_, _, _] (by simp) (by simp only [map]; decide)

theorem eventJson_auditRow (auditEventId kind subject : String) (old : Option String)
    : (auditRow auditEventId kind subject
          (old.toList.map fun old => ("old_certificate_digest", old))).eventJson =
      json (.obj (eventFields kind subject old)) := by
  have hpair : dict [("kind", str kind), ("subject", .str subject)]
      = [("kind", .str kind), ("subject", .str subject)] := by
    apply dict_of_sortedKeys
    rw [sortedKeys_iff]
    simp only [map_cons, map_nil]
    decide
  cases old with
  | none => exact congrArg (fun fields => json (.obj fields)) hpair
  | some old =>
    refine congrArg (fun fields => json (.obj fields)) ?_
    change dictSet "old_certificate_digest" (str old)
      (dict [("kind", str kind), ("subject", str subject)]) = _
    rw [hpair, dictSet_cons_of_gt (by decide), dictSet, if_pos (by decide)]
    rfl

theorem oldCertificateDetail_eq (old : Option String)
    : oldCertificateDetail old =
      (old.filter (· ≠ "")).toList.map fun old => ("old_certificate_digest", old) := by
  rcases old with _ | old
  . rfl
  . by_cases hempty : old = "" <;> simp [oldCertificateDetail, Option.filter, hempty]

theorem eventFields_inj
    (h : eventFields kind subject old = eventFields kind subject old') : old = old' := by
  cases old <;> cases old' <;> simp_all [eventFields]

theorem filter_ne_empty : old.filter (· ≠ "") = old ↔ old ≠ some "" := by
  rcases old with _ | old
  . simp
  . by_cases hempty : old = "" <;> simp [Option.filter, hempty]

theorem validateDecisionAudit_eq_ok [Platform]
    (haudit : audit? s row.auditEventId = some (auditRow row.auditEventId kind row.commitId
          (oldCertificateDetail operation.old)).eventJson) (hid : row.auditEventId =
      if row.outcome = .committed then auditId "commit" [row.commitId, operation.requestDigest]
      else auditId row.outcome.value [row.commitId, operation.requestDigest, row.reason])
    (hkind : kind = if row.outcome = .committed then "committed" else row.reason)
    : validateDecisionAudit s row operation = .ok () ↔ operation.old ≠ some "" := by
  have hcanon := canonical_eventFields kind row.commitId (operation.old.filter (· ≠ ""))
  rw [oldCertificateDetail_eq, eventJson_auditRow] at haudit
  simp only [validateDecisionAudit, haudit, loads_json hcanon, orInvalid, ok_bind,
    bind_eq_ok, exists_unit, ensure_eq_ok, decide_eq_true_eq, sameMembers_eq_true]
  rw [← hid]
  obtain ⟨_, _, _, old⟩ := operation
  unfold eventFields
  rcases old with _ | old
  . simp [List.lookup_cons, optionalText, hkind]
  . by_cases hempty : old = ""
    . simp [List.lookup_cons, optionalText, hkind, hempty, Option.filter]
    . simp [List.lookup_cons, optionalText, hkind, hempty, Option.filter, or_comm]

theorem canonical_atomicClaim (request : AtomicCommitRequest) (old : Option String)
    : (obj [("kind", .str "atomic"), ("request", authorityRequestObject request),
        ("supersede_old", optionalText old)]).Canonical :=
  canonical_obj (by simp) (by simp only [map]; decide)

theorem canonical_recoveryClaim (commitId requestDigest : String)
    : (obj [("commit_id", .str commitId), ("kind", .str "recovery"),
        ("request_digest", .str requestDigest)]).Canonical :=
  canonical_obj (by simp) (by simp only [map]; decide)

section Claims

variable [Platform] {request : AtomicCommitRequest} {old : Option String}
  {indexed : Option Indexed}

theorem claimedIdentity_optionalText (request : AtomicCommitRequest) (old : Option String)
    : claimedIdentity request (optionalText old) = operationIdentity request old := by
  cases old <;> rfl

theorem expectedConflict_atomic (hdig : publicRequestDigest request = .ok digest)
    : expectedConflict indexed [("kind", .str "atomic"),
          ("request", authorityRequestObject request), ("supersede_old", optionalText old)]
        = .ok expected ↔
      request.evidence.ExactKeys ∧
        expected = ⟨operationIdentity request old, digest, request.subject.workflowId,
          request.subject.nodeId, request.subject.attemptId, optionalText old⟩ := by
  have hmems : sameMembers ["kind", "request", "supersede_old"]
      ["kind", "request", "supersede_old"] := by decide
  have hitems : item [("kind", .str "atomic"), ("request", authorityRequestObject request),
        ("supersede_old", optionalText old)] "request" = .ok (authorityRequestObject request) ∧
      item [("kind", .str "atomic"), ("request", authorityRequestObject request),
        ("supersede_old", optionalText old)] "supersede_old" = .ok (optionalText old) := by
    simp
  simp only [expectedConflict, List.lookup_cons, beq_self_eq_true, map_cons, map_nil, hmems,
    ensure_true, ok_bind, hitems, bind_eq_ok, pure_inj]
  constructor
  . rintro ⟨request', hread, digest', hdig', rfl⟩
    have hkeys := exactKeys_of_requestFromJson hread
    have hpersisted := requestFromJson_authorityRequestJson hkeys
    rw [authorityRequestJson, hread, Except.ok.injEq] at hpersisted
    subst hpersisted
    rw [AtomicCommitRequest.publicRequestDigest_persisted, hdig, Except.ok.injEq] at hdig'
    subst hdig'
    rw [claimedIdentity_optionalText, AtomicCommitRequest.operationIdentity_persisted]
    exact ⟨hkeys, rfl⟩
  . rintro ⟨hkeys, rfl⟩
    refine ⟨request.persisted, requestFromJson_authorityRequestJson hkeys, digest, hdig, ?_⟩
    rw [claimedIdentity_optionalText, AtomicCommitRequest.operationIdentity_persisted]
    rfl

theorem expectedConflict_recovery (commitId requestDigest : String)
    : expectedConflict (some operation) [("commit_id", .str commitId), ("kind", .str "recovery"),
          ("request_digest", .str requestDigest)] =
      .ok ⟨requestDigest, requestDigest, operation.request.subject.workflowId,
        operation.request.subject.nodeId, operation.request.subject.attemptId, .null⟩ := by
  have hlook : lookup "kind" [("commit_id", str commitId),
      ("kind", .str "recovery"), ("request_digest", .str requestDigest)]
        = some (.str "recovery") := by
    simp [List.lookup_cons]
  have hmems : sameMembers ["commit_id", "kind", "request_digest"]
      ["kind", "commit_id", "request_digest"] := by decide
  simp [expectedConflict, hlook, hmems]

end Claims

theorem conflictEvent_eq_iff
    : (auditRow auditEventId FailureCode.commitIdEquivocation.value commitId
          (oldCertificateDetail old)).eventJson = conflictEvent commitId (optionalText old) ↔
      old ≠ some "" := by
  have hconf : conflictEvent commitId (optionalText old)
      = json (.obj (eventFields FailureCode.commitIdEquivocation.value commitId old)) := by
    rw [← eventJson_auditRow ""]
    cases old <;> rfl
  rw [oldCertificateDetail_eq, eventJson_auditRow, hconf, ← filter_ne_empty]
  constructor
  . intro h
    have hobj := eq_of_dumps_eq (canonical_eventFields _ _ _) (canonical_eventFields _ _ _) h
    exact eventFields_inj (obj.inj hobj)
  . intro h
    rw [h]

theorem canonical_trustEntry (sequence priorDigest kind subject auditEventId : String)
    : (obj [("audit_event_id", .str auditEventId), ("kind", .str kind),
        ("prior_digest", .str priorDigest), ("sequence", .str sequence),
        ("subject", .str subject)]).Canonical :=
  canonical_obj (by simp) (by simp only [map]; decide)

theorem validateTrustRow_entry {sequence} [Platform] (hseq : sequence ≤ maxSafeInteger)
    (haudit : (audit? s auditEventId).isSome) (hkind : kind = "commit" ∨ kind = "control")
    : validateTrustRow s sequence prior ⟨sequence, auditEventId, prior,
          sha256Digest (trustEntryJson sequence prior kind subject auditEventId).encodeUTF8,
          trustEntryJson sequence prior kind subject auditEventId⟩ =
      .ok ⟨sequence, kind, subject, auditEventId⟩ := by
  have hmems : sameMembers ["audit_event_id", "kind", "prior_digest", "sequence", "subject"]
      ["sequence", "prior_digest", "kind", "subject", "audit_event_id"] := by decide
  have hloads : loads (trustEntryJson sequence prior kind subject auditEventId) = _ :=
    loads_json (canonical_trustEntry (toString sequence) prior kind subject auditEventId)
  have hkind' : (decide (kind = "commit") || decide (kind = "control")) := by
    simpa using hkind
  generalize htext : trustEntryJson sequence prior kind subject auditEventId = text at hloads
  rw [trustEntryJson] at htext
  simp only [validateTrustRow, hloads, orInvalid, ok_bind, htext, map_cons, map_nil,
    hmems, haudit, ensure_true]
  simp [hseq, List.lookup_cons, hkind']

end Apcc
