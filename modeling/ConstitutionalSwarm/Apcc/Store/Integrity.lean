import ConstitutionalSwarm.Apcc.Store.Validate
import ConstitutionalSwarm.Data.Assoc

/-!
This module contains the semantic integrity of a store as a proposition, clause by clause, and the
proof that the validator accepts exactly the stores that have it.
-/

namespace Apcc

open List

def DispositionRow.Follows (rows : List DispositionRow) (row : DispositionRow) : Prop :=
  (row.eventSequence = 1 ∧ row.disposition = .current) ∨
    (row.eventSequence = 2 ∧ row.disposition ≠ .current ∧
      (⟨row.certificateDigest, 1, .current⟩ : DispositionRow) ∈ rows)

def latestIn (rows : List DispositionRow) (digest : String) : Option CertificateDisposition :=
  let find (n : Nat) :=
    rows.find? fun r => r.certificateDigest = digest && r.eventSequence = n
  ((find 2).or (find 1)).map (·.disposition)

theorem latestDisposition_eq_latestIn (s : Store) (digest : String)
    : s.latestDisposition digest = latestIn s.certificateDispositions.rows digest := rfl

theorem find?_eq_of_perm {α : Type} {p : α → Bool} {l l' : List α} (hperm : l.Perm l')
    (huniq : ∀ a ∈ l, ∀ b ∈ l, p a = true → p b = true → a = b) : l.find? p = l'.find? p := by
  cases hfind : l'.find? p with
  | none =>
    rw [find?_eq_none] at hfind ⊢
    intro a ha
    exact hfind a (hperm.mem_iff.mp ha)
  | some a =>
    have ha : a ∈ l := hperm.mem_iff.mpr (mem_of_find?_eq_some hfind)
    have hpa : p a = true := find?_some hfind
    cases hfind' : l.find? p with
    | none => exact absurd hpa (find?_eq_none.mp hfind' a ha)
    | some b =>
      rw [huniq b (mem_of_find?_eq_some hfind') a ha (find?_some hfind') hpa]

def DistinctKeys (rows : List DispositionRow) : Prop :=
  (rows.map fun r => (r.certificateDigest, r.eventSequence)).Nodup

variable {rows : List DispositionRow} {row : DispositionRow}

theorem DistinctKeys.eq (h : DistinctKeys rows) (ha : a ∈ rows)
    (hb : b ∈ rows) (hdig : a.certificateDigest = b.certificateDigest)
    (hseq : a.eventSequence = b.eventSequence) : a = b :=
  inj_on_of_nodup_map h ha hb (Prod.ext hdig hseq)

theorem DistinctKeys.left (h : DistinctKeys (l ++ l')) : DistinctKeys l :=
  List.Nodup.sublist ((sublist_append_left l l').map _) h

theorem DistinctKeys.ne (h : DistinctKeys (l ++ l')) (ha : a ∈ l) (hb : b ∈ l')
    (hdig : a.certificateDigest = b.certificateDigest) : a.eventSequence ≠ b.eventSequence := by
  intro hseq
  rw [DistinctKeys, map_append, nodup_append] at h
  exact h.2.2 _ (mem_map_of_mem ha) _ (mem_map_of_mem hb) (Prod.ext hdig hseq)

theorem distinctKeys_rows (t : Table DispositionRow) : DistinctKeys t.rows := by
  refine pairwise_map.mpr (t.distinct.imp fun h hkey => ?_)
  simp only [Prod.mk.injEq] at hkey
  simp [TableSchema.compatible, hkey] at h

theorem DistinctKeys.perm (hperm : l.Perm l') (h : DistinctKeys l)
    : DistinctKeys l' :=
  (hperm.map _).nodup_iff.mp h

theorem latestIn_perm {l l' : List DispositionRow} (hperm : l.Perm l') (h : DistinctKeys l)
    (digest : String) : latestIn l digest = latestIn l' digest := by
  unfold latestIn
  have hfind (n : Nat) :
      l.find? (fun r => r.certificateDigest = digest && r.eventSequence = n) =
        l'.find? fun r => r.certificateDigest = digest && r.eventSequence = n := by
    apply find?_eq_of_perm hperm
    intro a ha b hb hpa hpb
    simp only [Bool.and_eq_true, decide_eq_true_eq] at hpa hpb
    exact h.eq ha hb (hpa.1.trans hpb.1.symm) (hpa.2.trans hpb.2.symm)
  simp only [hfind]

theorem latestIn_eq_none (hchecked : ∀ r ∈ rows, r.eventSequence = 1 ∨ r.eventSequence = 2)
    : latestIn rows digest = none ↔ ∀ r ∈ rows, r.certificateDigest ≠ digest := by
  unfold latestIn
  rw [Option.map_eq_none_iff, Option.or_eq_none_iff, find?_eq_none, find?_eq_none]
  constructor
  . rintro ⟨htwo, hone⟩ r hr hdig
    rcases hchecked r hr with h | h
    . exact hone r hr (by simp [hdig, h])
    . exact htwo r hr (by simp [hdig, h])
  . intro h
    exact ⟨fun r hr => by simp [h r hr], fun r hr => by simp [h r hr]⟩

theorem latestIn_append_of_ne (h : row.certificateDigest ≠ digest)
    : latestIn (rows ++ [row]) digest = latestIn rows digest := by
  simp [latestIn, find?_append, h]

theorem latestIn_append_one (hseq : row.eventSequence = 1)
    (hfresh : latestIn rows row.certificateDigest = none)
    : latestIn (rows ++ [row]) row.certificateDigest = some row.disposition := by
  simp only [latestIn, Option.map_eq_none_iff, Option.or_eq_none_iff] at hfresh
  simp [latestIn, find?_append, hfresh, hseq]

theorem latestIn_append_two (hdist : DistinctKeys (rows ++ [row])) (hseq : row.eventSequence = 2)
    : latestIn (rows ++ [row]) row.certificateDigest = some row.disposition := by
  have hnone : rows.find? (fun r =>
      r.certificateDigest = row.certificateDigest && r.eventSequence = 2) = none := by
    rw [find?_eq_none]
    intro r hr hp
    simp only [Bool.and_eq_true, decide_eq_true_eq] at hp
    exact hdist.ne hr (mem_singleton_self row) hp.1 (hp.2.trans hseq.symm)
  simp [latestIn, find?_append, hnone, hseq]

def DispositionRow.Fits (row : DispositionRow) (latest : Option CertificateDisposition) : Prop :=
  (row.eventSequence = 1 ∧ row.disposition = .current ∧ latest = none) ∨
    (row.eventSequence = 2 ∧ row.disposition ≠ .current ∧ latest = some .current)

theorem validateDisposition_eq_ok
    : validateDisposition certificates latest row = .ok latest' ↔
      (certificates.lookup row.certificateDigest).isSome ∧
      row.Fits (latest.lookup row.certificateDigest) ∧
      (row.certificateDigest, row.disposition) :: latest = latest' := by
  unfold validateDisposition DispositionRow.Fits
  simp only [bind_eq_ok, exists_unit, ensure_eq_ok]
  obtain ⟨digest, seq, disposition⟩ := row
  apply and_congr_right
  intro _
  cases hlook : latest.lookup digest with
  | none => rcases seq with _ | _ | _ | n <;> cases disposition <;> simp
  | some prior =>
    rcases seq with _ | _ | _ | n <;> cases disposition <;> cases prior <;> simp

theorem latestIn_eq_current (hkeys : DistinctKeys rows)
    (hopen : ∀ r ∈ rows, r.certificateDigest = digest → r.eventSequence ≠ 2)
    : latestIn rows digest = some .current ↔
      (⟨digest, 1, .current⟩ : DispositionRow) ∈ rows := by
  have htwo : rows.find? (fun r => r.certificateDigest = digest && r.eventSequence = 2) = none := by
    rw [find?_eq_none]
    intro r hr hp
    simp only [Bool.and_eq_true, decide_eq_true_eq] at hp
    exact hopen r hr hp.1 hp.2
  simp only [latestIn, htwo, Option.none_or, Option.map_eq_some_iff]
  constructor
  . rintro ⟨⟨_, _, _⟩, hfind, rfl⟩
    have hmem := mem_of_find?_eq_some hfind
    have hp := find?_some hfind
    simp only [Bool.and_eq_true, decide_eq_true_eq] at hp
    rw [← hp.1, ← hp.2]
    exact hmem
  . intro hmem
    cases hfind : rows.find? (fun r => r.certificateDigest = digest && r.eventSequence = 1) with
    | none => exact absurd (by simp) (find?_eq_none.mp hfind _ hmem)
    | some r =>
      have hp := find?_some hfind
      simp only [Bool.and_eq_true, decide_eq_true_eq] at hp
      rw [hkeys.eq (mem_of_find?_eq_some hfind) hmem hp.1 hp.2]
      exact ⟨_, rfl, rfl⟩

section Loop

variable {certificates : Certificates} {done rest : List DispositionRow} {latest : Dispositions}

theorem lookup_cons_eq_latestIn (hkeys : DistinctKeys (done ++ [row]))
    (hlatest : ∀ digest, latest.lookup digest = latestIn done digest)
    (hrow : row.Fits (latest.lookup row.certificateDigest)) (digest : String)
    : ((row.certificateDigest, row.disposition) :: latest).lookup digest =
      latestIn (done ++ [row]) digest := by
  by_cases hdig : row.certificateDigest = digest
  . subst hdig
    rw [lookup_cons_self]
    rcases hrow with ⟨hone, -, hnone⟩ | ⟨htwo, -⟩
    . exact (latestIn_append_one hone (hlatest _ ▸ hnone)).symm
    . exact (latestIn_append_two hkeys htwo).symm
  . rw [latestIn_append_of_ne hdig, ← hlatest]
    simp [lookup_cons, beq_false_of_ne (Ne.symm hdig)]

variable (done) in
theorem lookup_of_foldlM_validateDisposition (hkeys : DistinctKeys (done ++ rest))
    (hlatest : ∀ digest, latest.lookup digest = latestIn done digest)
    (h : rest.foldlM (validateDisposition certificates) latest = .ok latest') (digest : String)
    : latest'.lookup digest = latestIn (done ++ rest) digest := by
  induction rest generalizing done latest with
  | nil =>
    rw [← Except.ok.inj h, append_nil]
    exact hlatest digest
  | cons row rest ih =>
    rw [foldlM_cons, bind_eq_ok] at h
    obtain ⟨_, hrow, h⟩ := h
    obtain ⟨-, hfits, rfl⟩ := validateDisposition_eq_ok.mp hrow
    rw [append_cons] at hkeys ⊢
    exact ih (done ++ [row]) hkeys (lookup_cons_eq_latestIn hkeys.left hlatest hfits) h

theorem follows_iff (hkeys : DistinctKeys (done ++ row :: rest))
    (hchecked : ∀ r ∈ done ++ row :: rest, r.eventSequence = 1 ∨ r.eventSequence = 2)
    (hsort : (done ++ row :: rest).Pairwise fun a b => dispositionLe a b)
    : row.Follows (done ++ row :: rest) ↔ row.Fits (latestIn done row.certificateDigest) := by
  have hopen (r : DispositionRow) (hr : r ∈ done) (h : r.certificateDigest = row.certificateDigest)
      : r.eventSequence < row.eventSequence := by
    have hle := (pairwise_append.mp hsort).2.2 r hr row mem_cons_self
    simp only [dispositionLe, h, lt_self_iff_false, decide_false, Bool.false_or, decide_true,
      Bool.true_and, decide_eq_true_eq] at hle
    exact Nat.lt_of_le_of_ne hle (hkeys.ne hr mem_cons_self h)
  refine or_congr (and_congr_right fun hone => (and_iff_left ?_).symm)
    (and_congr_right fun htwo => and_congr_right fun _ => ?_)
  . have hdone r hr := hchecked r (mem_append_left _ hr)
    rw [latestIn_eq_none hdone]
    intro r hr h
    have hlt := hopen r hr h
    rcases hdone r hr with h1 | h1 <;> omega
  . rw [latestIn_eq_current hkeys.left fun r hr h => by have := hopen r hr h; omega]
    refine ⟨fun hstart => ?_, mem_append_left _⟩
    rcases mem_append.mp hstart with h | h
    . exact h
    . rcases mem_cons.mp h with h | h
      . have := congrArg DispositionRow.eventSequence h
        dsimp only at this
        omega
      . have hle := (pairwise_cons.mp (pairwise_append.mp hsort).2.1).1 _ h
        simp [dispositionLe, htwo] at hle

variable (done) in
theorem foldlM_validateDisposition_isOk_iff (hkeys : DistinctKeys (done ++ rest))
    (hchecked : ∀ r ∈ done ++ rest, r.eventSequence = 1 ∨ r.eventSequence = 2)
    (hsort : (done ++ rest).Pairwise fun a b => dispositionLe a b)
    (hlatest : ∀ digest, latest.lookup digest = latestIn done digest)
    : (∃ latest', rest.foldlM (validateDisposition certificates) latest = .ok latest') ↔
      ∀ r ∈ rest, (certificates.lookup r.certificateDigest).isSome ∧ r.Follows (done ++ rest) := by
  induction rest generalizing done latest with
  | nil => simp [pure, Except.pure]
  | cons row rest ih =>
    have hfollows := follows_iff hkeys hchecked hsort
    rw [← hlatest] at hfollows
    simp only [foldlM_cons, bind_eq_ok, validateDisposition_eq_ok, forall_mem_cons, hfollows]
    rw [append_cons] at hkeys hchecked hsort ⊢
    constructor
    . rintro ⟨latest', _, ⟨hcert, hfits, rfl⟩, h⟩
      exact ⟨⟨hcert, hfits⟩, (ih _ hkeys hchecked hsort
        (lookup_cons_eq_latestIn hkeys.left hlatest hfits)).mp ⟨latest', h⟩⟩
    . rintro ⟨⟨hcert, hfits⟩, hrows⟩
      obtain ⟨latest', h⟩ := (ih _ hkeys hchecked hsort
        (lookup_cons_eq_latestIn hkeys.left hlatest hfits)).mpr hrows
      exact ⟨latest', _, ⟨hcert, hfits, rfl⟩, h⟩

end Loop

structure DispositionsOk (s : Store) (certificates : Certificates) : Prop where
  known : ∀ r ∈ s.certificateDispositions, (certificates.lookup r.certificateDigest).isSome
  follows : ∀ r ∈ s.certificateDispositions, r.Follows s.certificateDispositions.rows
  started : ∀ c ∈ certificates, (s.latestDisposition c.1).isSome

section Query

variable {s : Store} {certificates : Certificates}

theorem perm_mergeSort_dispositions (s : Store)
    : (s.certificateDispositions.rows.mergeSort dispositionLe).Perm
      s.certificateDispositions.rows :=
  mergeSort_perm _ _

theorem lookup_of_validateDispositions
    (h : validateDispositions s certificates = .ok latest) (digest : String)
    : latest.lookup digest = s.latestDisposition digest := by
  simp only [validateDispositions, bind_eq_ok, exists_unit, ensure_eq_ok, pure_eq_ok] at h
  obtain ⟨_, hloop, -, hlatest⟩ := h
  cases hlatest
  have hperm := perm_mergeSort_dispositions s
  have hkeys := (distinctKeys_rows s.certificateDispositions).perm hperm.symm
  have hlook := lookup_of_foldlM_validateDisposition [] (by simpa using hkeys)
    (fun digest => by simp [latestIn]) hloop digest
  rw [hlook, nil_append, latestIn_perm hperm hkeys, latestDisposition_eq_latestIn]

theorem dispositionLe_trans (a b c : DispositionRow) (hab : dispositionLe a b)
    (hbc : dispositionLe b c) : dispositionLe a c := by
  simp only [dispositionLe, Bool.or_eq_true, Bool.and_eq_true, decide_eq_true_eq] at *
  rcases hab with hab | ⟨hab, hle⟩ <;> rcases hbc with hbc | ⟨hbc, hle'⟩
  . exact .inl (hab.trans hbc)
  . exact .inl (hbc ▸ hab)
  . exact .inl (hab ▸ hbc)
  . exact .inr ⟨hab.trans hbc, hle.trans hle'⟩

theorem dispositionLe_total (a b : DispositionRow)
    : (dispositionLe a b || dispositionLe b a) := by
  simp only [dispositionLe, Bool.or_eq_true, Bool.and_eq_true, decide_eq_true_eq]
  rcases lt_trichotomy a.certificateDigest b.certificateDigest with h | h | h
  . exact .inl (.inl h)
  . rcases Nat.le_total a.eventSequence b.eventSequence with hle | hle
    . exact .inl (.inr ⟨h, hle⟩)
    . exact .inr (.inr ⟨h.symm, hle⟩)
  . exact .inr (.inl h)

theorem validateDispositions_isOk_iff
    : (∃ latest, validateDispositions s certificates = .ok latest) ↔
      DispositionsOk s certificates := by
  have hperm := perm_mergeSort_dispositions s
  have hkeys := (distinctKeys_rows s.certificateDispositions).perm hperm.symm
  have hloop := @foldlM_validateDisposition_isOk_iff certificates [] _ [] hkeys
    (fun r hr => by
      simpa [TableSchema.check] using s.certificateDispositions.checked r (hperm.mem_iff.mp hr))
    (pairwise_mergeSort dispositionLe_trans dispositionLe_total _) fun digest => rfl
  simp only [nil_append, DispositionRow.Follows, hperm.mem_iff] at hloop
  constructor
  . rintro ⟨latest, h⟩
    have hlook := lookup_of_validateDispositions h
    simp only [validateDispositions, bind_eq_ok, exists_unit, ensure_eq_ok, pure_eq_ok] at h
    obtain ⟨_, hfold, hall, hlatest⟩ := h
    cases hlatest
    have hrows := hloop.mp ⟨_, hfold⟩
    refine ⟨fun r hr => (hrows r hr).1, fun r hr => (hrows r hr).2, fun c hc => ?_⟩
    rw [← hlook]
    exact all_eq_true.mp hall c hc
  . rintro ⟨hknown, hfollows, hstarted⟩
    obtain ⟨latest, hfold⟩ := hloop.mpr fun r hr => ⟨hknown r hr, hfollows r hr⟩
    have hlook := lookup_of_foldlM_validateDisposition [] hkeys (fun digest => rfl) hfold
    refine ⟨latest, ?_⟩
    simp only [validateDispositions, bind_eq_ok, exists_unit, ensure_eq_ok, pure_eq_ok]
    refine ⟨latest, hfold, all_eq_true.mpr fun c hc => ?_, rfl⟩
    rw [hlook, nil_append, latestIn_perm hperm hkeys, ← latestDisposition_eq_latestIn]
    exact hstarted c hc

end Query

section Integrity

theorem sameMembers_eq_true {α : Type} [BEq α] [LawfulBEq α] {a b : List α}
    : sameMembers a b ↔ ∀ x, x ∈ a ↔ x ∈ b := by
  simp only [sameMembers, Bool.and_eq_true, all_eq_true, contains_iff_mem]
  exact ⟨fun h x => ⟨h.1 x, h.2 x⟩, fun h => ⟨fun x => (h x).mp, fun x => (h x).mpr⟩⟩

theorem validateLogicalNode_eq_ok {latest row}
    : validateLogicalNode certificates latest row = .ok u ↔
      (row.version = "0" ↔ row.certificateDigest = none) ∧
      ∀ digest ∈ row.certificateDigest, ∃ c, certificates.lookup digest = some c ∧
        (c.subject.workflowId, c.subject.nodeId) = (row.workflowId, row.nodeId) ∧
        c.bindings.committedNodeVersion = row.version ∧ latest digest ≠ some .superseded := by
  unfold validateLogicalNode
  rcases row.certificateDigest with _ | digest
  . simp [bind_eq_ok]
  . cases hlook : certificates.lookup digest <;> simp [hlook, bind_eq_ok, and_assoc]

variable [Platform] (config : AuthorityConfig)

def decodedCertificates (s : Store) : Certificates :=
  s.certificates.rows.filterMap fun r => (validateCertificate config r).toOption

def indexedOperations (s : Store) : Operations :=
  s.commitIndex.rows.filterMap fun r => (validateCommitIndex r).toOption

@[mk_iff]
structure IndexesOk (s : Store) : Prop where
  length : s.requestIndex.rows.length = s.commitIndex.rows.length
  decisions : ∀ id,
    id ∈ s.decisions.rows.map (·.commitId) ↔ id ∈ s.commitIndex.rows.map (·.commitId)
  requests : ∀ id,
    id ∈ s.requestIndex.rows.map (·.commitId) ↔ id ∈ s.commitIndex.rows.map (·.commitId)

def allSignedEdges (certificates : Certificates) : List (String × String) :=
  certificates.flatMap fun c =>
    c.2.bindings.predecessors.map fun p => (c.2.decision.commitId, p.certificateDigest)

def allStoredEdges (s : Store) : List (String × String) :=
  s.predecessorEdges.rows.map fun r => (r.childCommitId, r.predecessorDigest)

@[mk_iff]
structure DecisionsOk (s : Store) (certificates : Certificates) (operations : Operations)
    : Prop where
  rows : ∀ r ∈ s.decisions, validateDecision config s certificates operations r = .ok ()
  owners : ∀ r ∈ s.nonceLedger, (operations.lookup r.commitId).isSome
  evidence : ∀ id, id ∈ s.evidenceRefs.rows.map (·.commitId) ↔ id ∈ committedIds s
  certificates : ∀ id, id ∈ certificates.map (·.2.decision.commitId) ↔ id ∈ committedIds s

@[mk_iff]
structure OutputRefsOk (s : Store) (operations : Operations) : Prop where
  ids : ∀ id, id ∈ s.commitOutputRefs.rows.map (·.commitId) ↔ id ∈ committedIds s
  rows : ∀ r ∈ s.commitOutputRefs, validateOutputRef s operations r = .ok ()

structure SupersessionsOk (s : Store) (certificates : Certificates) (operations : Operations)
    : Prop where
  rows : ∀ r ∈ s.supersessionEdges,
    validateSupersessionEdge s certificates s.latestDisposition operations r = .ok ()
  distinct : s.supersessionEdges.rows.Pairwise fun a b =>
    a.oldDigest ≠ b.oldDigest ∧ a.newDigest ≠ b.newDigest
  superseded : ∀ c ∈ certificates, s.latestDisposition c.1 = some .superseded →
    ∃ r ∈ s.supersessionEdges, r.oldDigest = c.1
  incoming : ∀ r ∈ s.decisions, r.outcome = .committed → validateIncoming s operations r = .ok ()

@[mk_iff]
structure GenerationsOk (s : Store) : Prop where
  actors : ∀ r ∈ s.actorRevocations,
    expectedGeneration s.controlEvents.rows (·.isActor r.workflowId r.actorId)
      = PyInt.int? r.generation
  actorRows : ∀ c ∈ s.controlEvents, c.scope = .actor →
    ∃ r ∈ s.actorRevocations, c.isActor r.workflowId r.actorId
  workflows : ∀ r ∈ s.workflowRevocations,
    expectedGeneration s.controlEvents.rows (·.isWorkflow r.workflowId) = PyInt.int? r.generation
  workflowRows : ∀ c ∈ s.controlEvents, c.scope = .workflow →
    ∃ r ∈ s.workflowRevocations, c.isWorkflow r.workflowId

def outboxOperations (s : Store) (kind : OutboxKind) : List String :=
  (s.outbox.rows.filter (·.eventKind = kind)).map (·.operationId)

@[mk_iff]
structure OutboxOk (s : Store) (certificates : Certificates) (facts : List TrustFact) : Prop where
  rows : ∀ r ∈ s.outbox, validateOutboxRow s certificates facts r = .ok ()
  commits : ∀ id, id ∈ outboxOperations s .commit ↔ id ∈ committedIds s
  controls : ∀ id,
    id ∈ outboxOperations s .control ↔ id ∈ s.controlEvents.rows.map (·.operationId)
  count : facts.length = (committedIds s).length + s.controlEvents.rows.length

@[mk_iff]
structure ConflictsOk (s : Store) (operations : Operations) : Prop where
  rows : ∀ r ∈ s.commitConflicts, validateConflict s operations r = .ok ()
  sequences : ∀ r ∈ s.commitConflicts,
    (observations s r.commitId).mergeSort = List.range' 1 (observations s r.commitId).length

@[mk_iff]
structure LogicalNodesOk (s : Store) (certificates : Certificates) : Prop where
  rows : ∀ r ∈ s.logicalNodes, validateLogicalNode certificates s.latestDisposition r = .ok ()
  pointed : ∀ c ∈ certificates, s.latestDisposition c.1 = some .current →
    ∃ r ∈ s.logicalNodes, r.certificateDigest = some c.1

structure Integrity (s : Store) : Prop where
  certificates : ∀ r ∈ s.certificates, ∃ c, validateCertificate config r = .ok c
  dispositions : DispositionsOk s (decodedCertificates config s)
  logicalNodes : LogicalNodesOk s (decodedCertificates config s)
  candidates : ∀ r ∈ s.candidates,
    validateCandidateRow config r (s.logicalNode? r.workflowId r.nodeId).isSome = .ok ()
  operations : ∀ r ∈ s.commitIndex, ∃ o, validateCommitIndex r = .ok o
  indexes : IndexesOk s
  edges : ∀ e, e ∈ allSignedEdges (decodedCertificates config s) ↔ e ∈ allStoredEdges s
  decisions : DecisionsOk config s (decodedCertificates config s) (indexedOperations s)
  outputRefs : OutputRefsOk s (indexedOperations s)
  supersessions : SupersessionsOk s (decodedCertificates config s) (indexedOperations s)
  controls : ∀ r ∈ s.controlEvents,
    validateControl s (decodedCertificates config s) s.latestDisposition r = .ok ()
  generations : GenerationsOk s
  trust : ∃ facts, validateTrustLog s = .ok facts ∧
    OutboxOk s (decodedCertificates config s) facts
  conflicts : ConflictsOk s (indexedOperations s)

section Parts

variable {config} {s : Store} {certificates : Certificates} {operations : Operations}
  {facts : List TrustFact} {u : Unit}

omit [Platform] in
theorem validateLogicalNodes_eq_ok
    : validateLogicalNodes s certificates s.latestDisposition = .ok u ↔
      LogicalNodesOk s certificates := by
  simp only [validateLogicalNodes, bind_eq_ok, exists_unit, Except.forM_eq_ok, ensure_eq_ok,
    all_eq_true, Bool.or_eq_true, decide_eq_true_eq, contains_iff_mem,
    mem_filterMap, logicalNodesOk_iff, ne_eq, ← imp_iff_not_or]
  rfl

omit [Platform] in
theorem validateIndexes_eq_ok : validateIndexes s = .ok u ↔ IndexesOk s := by
  have hnonces : (s.nonceLedger.rows.map (·.nonce)).Nodup ∧
      (s.nonceLedger.rows.map (·.commitId)).Nodup := by
    simp only [List.Nodup, pairwise_map, ← pairwise_and_iff]
    refine s.nonceLedger.distinct.imp fun h => ?_
    simpa only [TableSchema.compatible, Bool.and_eq_true, decide_eq_true_eq] using h
  simp [validateIndexes, bind_eq_ok, ensure_eq_ok, sameMembers_eq_true, indexesOk_iff, hnonces]

omit [Platform] in
theorem validateEdges_eq_ok
    : validateEdges s certificates = .ok u ↔
      ∀ e, e ∈ allSignedEdges certificates ↔ e ∈ allStoredEdges s := by
  simp only [validateEdges, ensure_eq_ok, sameMembers_eq_true]
  rfl

theorem validateDecisions_eq_ok
    : validateDecisions config s certificates operations = .ok u ↔
      DecisionsOk config s certificates operations := by
  simp only [validateDecisions, bind_eq_ok, exists_unit, Except.forM_eq_ok, ensure_eq_ok,
    sameMembers_eq_true, all_eq_true, decisionsOk_iff]
  rfl

theorem validateOutputRefs_eq_ok
    : validateOutputRefs s operations = .ok u ↔ OutputRefsOk s operations := by
  simp only [validateOutputRefs, bind_eq_ok, exists_unit, Except.forM_eq_ok, ensure_eq_ok,
    sameMembers_eq_true, outputRefsOk_iff]
  rfl

omit [Platform] in
theorem validateGenerations_eq_ok : validateGenerations s = .ok u ↔ GenerationsOk s := by
  simp only [validateGenerations, bind_eq_ok, exists_unit, ensure_eq_ok, all_eq_true,
    Bool.or_eq_true, decide_eq_true_eq, Table.any, any_eq_true, generationsOk_iff, ne_eq,
    ← imp_iff_not_or]
  rfl

theorem validateOutbox_eq_ok
    : validateOutbox s certificates facts = .ok u ↔ OutboxOk s certificates facts := by
  simp only [validateOutbox, bind_eq_ok, exists_unit, Except.forM_eq_ok, ensure_eq_ok,
    sameMembers_eq_true, decide_eq_true_eq, outboxOk_iff, length_map]
  rfl

theorem validateConflicts_eq_ok
    : validateConflicts s operations = .ok u ↔ ConflictsOk s operations := by
  simp only [validateConflicts, bind_eq_ok, exists_unit, Except.forM_eq_ok, ensure_eq_ok,
    all_eq_true, decide_eq_true_eq, conflictsOk_iff]
  rfl

theorem foldlM_validateSupersession_isOk_iff (rows seen : List SupersessionEdgeRow)
    : (∃ seen', rows.foldlM (validateSupersession s certificates latest operations) seen
        = .ok seen') ↔
      (∀ r ∈ rows, validateSupersessionEdge s certificates latest operations r = .ok ()) ∧
      rows.Pairwise (fun a b => a.oldDigest ≠ b.oldDigest ∧ a.newDigest ≠ b.newDigest) ∧
      ∀ a ∈ seen, ∀ b ∈ rows, a.oldDigest ≠ b.oldDigest ∧ a.newDigest ≠ b.newDigest := by
  induction rows generalizing seen with
  | nil => simp [pure, Except.pure]
  | cons row rows ih =>
    have hstep (seen' : List SupersessionEdgeRow)
        : validateSupersession s certificates latest operations seen row = .ok seen' ↔
          validateSupersessionEdge s certificates latest operations row = .ok () ∧
          (∀ a ∈ seen, a.oldDigest ≠ row.oldDigest ∧ a.newDigest ≠ row.newDigest) ∧
          row :: seen = seen' := by
      simp [validateSupersession, bind_eq_ok, exists_unit]
    simp only [foldlM_cons, bind_eq_ok, hstep, forall_mem_cons, pairwise_cons]
    constructor
    . rintro ⟨seen', _, ⟨hrow, hseen, rfl⟩, h⟩
      obtain ⟨hrows, hpairwise, hdisj⟩ := (ih _).mp ⟨seen', h⟩
      rw [forall_mem_cons] at hdisj
      exact ⟨⟨hrow, hrows⟩, ⟨hdisj.1, hpairwise⟩, fun a ha => ⟨hseen a ha, hdisj.2 a ha⟩⟩
    . rintro ⟨⟨hrow, hrows⟩, ⟨hhead, hpairwise⟩, hdisj⟩
      obtain ⟨seen', h⟩ := (ih (row :: seen)).mpr ⟨hrows, hpairwise,
        forall_mem_cons.mpr ⟨hhead, fun a ha => (hdisj a ha).2⟩⟩
      exact ⟨seen', _, ⟨hrow, fun a ha => (hdisj a ha).1, rfl⟩, h⟩

theorem superseded_of_validateSupersessionEdge {latest row}
    (h : validateSupersessionEdge s certificates latest operations row = .ok u)
    : (certificates.lookup row.oldDigest).isSome ∧ latest row.oldDigest = some .superseded := by
  unfold validateSupersessionEdge at h
  split at h
  . next old new hold hnew =>
    refine ⟨by simp [hold], ?_⟩
    rw [bind_eq_ok] at h
    obtain ⟨_, -, h⟩ := h
    split at h
    . simp at h
    . simp only [bind_eq_ok, exists_unit, ensure_eq_ok, decide_eq_true_eq] at h
      exact h.2.2.2.2.1
    . simp at h
  . simp at h

theorem validateSupersessions_eq_ok
    : validateSupersessions s certificates s.latestDisposition operations = .ok u ↔
      SupersessionsOk s certificates operations := by
  simp only [validateSupersessions, bind_eq_ok, exists_unit, Except.forM_eq_ok, ensure_eq_ok,
    sameMembers_eq_true, mem_filter, decide_eq_true_eq]
  constructor
  . rintro ⟨seen, hloop, hsame, hincoming⟩
    obtain ⟨hrows, hpairwise, -⟩ := (foldlM_validateSupersession_isOk_iff _ _).mp ⟨seen, hloop⟩
    refine ⟨hrows, hpairwise, fun c hc h => ?_, fun r hr h => hincoming r ⟨hr, h⟩⟩
    obtain ⟨r, hr, hdig⟩ := mem_map.mp ((hsame c.1).mp ⟨mem_map_of_mem hc, h⟩)
    exact ⟨r, hr, hdig⟩
  . rintro ⟨hrows, hpairwise, hsup, hincoming⟩
    obtain ⟨seen, hloop⟩ := (foldlM_validateSupersession_isOk_iff _ []).mpr
      ⟨hrows, hpairwise, by simp⟩
    refine ⟨seen, hloop, fun digest => ⟨?_, ?_⟩, fun r hr => hincoming r hr.1 hr.2⟩
    . rintro ⟨hmem, h⟩
      obtain ⟨c, hc, rfl⟩ := mem_map.mp hmem
      obtain ⟨r, hr, hdig⟩ := hsup c hc h
      exact mem_map.mpr ⟨r, hr, hdig⟩
    . intro hmem
      obtain ⟨r, hr, rfl⟩ := mem_map.mp hmem
      obtain ⟨hlook, hlatest⟩ := superseded_of_validateSupersessionEdge (hrows r hr)
      obtain ⟨c, hc⟩ := Assoc.lookup_isSome.mp hlook
      exact ⟨mem_map.mpr ⟨_, hc, rfl⟩, hlatest⟩

end Parts

theorem validateSemanticIntegrity_isOk_iff (s : Store)
    : (∃ snap, validateSemanticIntegrity config s = .ok snap) ↔ Integrity config s := by
  simp only [validateSemanticIntegrity, validateCandidates, bind_eq_ok, exists_unit,
    Except.mapM_eq_ok, Except.forM_eq_ok, pure_eq_ok, validateIndexes_eq_ok, validateEdges_eq_ok,
    validateDecisions_eq_ok, validateOutputRefs_eq_ok, validateGenerations_eq_ok,
    validateOutbox_eq_ok, validateConflicts_eq_ok]
  have hlatest {latest} (h : validateDispositions s (decodedCertificates config s) = .ok latest)
      : (fun digest => latest.lookup digest) = s.latestDisposition :=
    funext (lookup_of_validateDispositions h)
  constructor
  . rintro ⟨snap, _, ⟨hcerts, rfl⟩, latest, hdisps, hnodes, hcands, facts,
      hfacts, _, ⟨hops, rfl⟩, hindexes, hedges, hdecs, houtputs, hsups,
      hctrls, hgens, houtbox, hconfs, -⟩
    rw [hlatest hdisps] at hnodes hsups hctrls
    exact ⟨hcerts, validateDispositions_isOk_iff.mp ⟨latest, hdisps⟩,
      validateLogicalNodes_eq_ok.mp hnodes, hcands, hops, hindexes, hedges, hdecs,
      houtputs, validateSupersessions_eq_ok.mp hsups, hctrls, hgens,
      ⟨facts, hfacts, houtbox⟩, hconfs⟩
  . intro h
    obtain ⟨latest, hdisps⟩ := validateDispositions_isOk_iff.mpr h.dispositions
    obtain ⟨facts, hfacts, houtbox⟩ := h.trust
    refine ⟨_, _, ⟨h.certificates, rfl⟩, latest, hdisps, ?_, h.candidates, facts, hfacts, _,
      ⟨h.operations, rfl⟩, h.indexes, h.edges, h.decisions, h.outputRefs, ?_, ?_, h.generations,
      houtbox, h.conflicts, rfl⟩
    . rw [hlatest hdisps]
      exact validateLogicalNodes_eq_ok.mpr h.logicalNodes
    . rw [hlatest hdisps]
      exact validateSupersessions_eq_ok.mpr h.supersessions
    . rw [hlatest hdisps]
      exact h.controls

end Integrity

end Apcc
