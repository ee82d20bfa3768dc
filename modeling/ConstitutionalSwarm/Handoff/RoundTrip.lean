import ConstitutionalSwarm.Handoff.Bundle
import ConstitutionalSwarm.Handoff.Log

namespace Handoff

open Raising List Assoc
open PyJson (Plain WellFormed sortKeys sortedFields sortKeys_dict lookup_sortedFields)
open PyValue (Dict)

structure Clean (read : Dict) : Prop where
  nodup : (read.map Prod.fst).Nodup
  wellFormed : WellFormed false (.dict (withoutLine read))

structure Same (read event : Dict) : Prop where
  clean : Clean read
  fields : sortedFields (withoutLine read) = sortedFields event

theorem sortKeys_eq_str (h : sortKeys v = .str s) : v = .str s := by
  cases v <;> simp_all [sortKeys]

theorem sortKeys_eq_int (h : sortKeys v = .int i) : v = .int i := by
  cases v <;> simp_all [sortKeys]

variable {read : Dict} {logger : AuditLogger}

theorem nodup_withoutLine (h : (read.map Prod.fst).Nodup)
    : ((withoutLine read).map Prod.fst).Nodup :=
  h.sublist (filter_sublist.map _)

theorem lookup_withoutLine (hk : k ≠ "_line") (read : Dict)
    : (withoutLine read).lookup k = read.lookup k := by
  have h := lookup_erase "_line" k read
  rw [if_neg hk] at h
  exact h

namespace Same

variable {read event : Dict} (h : Same read event) (hevent : (event.map Prod.fst).Nodup)

include h hevent

theorem lookup (hk : k ≠ "_line")
    : (read.lookup k).map sortKeys = (event.lookup k).map sortKeys := by
  rw [← lookup_withoutLine hk, ← lookup_sortedFields h.clean.wellFormed.1, h.fields,
    lookup_sortedFields hevent]

theorem get (hk : k ≠ "_line")
    : sortKeys (Dict.get read k) = sortKeys (Dict.get event k) := by
  have hlook := h.lookup hevent hk
  unfold Dict.get
  cases hread : read.lookup k with
  | none =>
    rw [hread, Option.map_none, eq_comm, Option.map_eq_none_iff] at hlook
    rw [hlook]
  | some v =>
    rw [hread, Option.map_some, eq_comm, Option.map_eq_some_iff] at hlook
    obtain ⟨_, hw, heq⟩ := hlook
    rw [hw]
    exact heq.symm

theorem hashedFields_eq
    : sortedFields (hashedFields read) =
      sortedFields (event.filter fun field => field.1 ≠ "event_hash") := by
  have hfilter : hashedFields read =
      (withoutLine read).filter fun field => decide (field.1 ≠ "event_hash") := by
    rw [hashedFields, withoutLine, filter_filter]
    simp
  rw [hfilter, PyJson.sortedFields_filter h.clean.wellFormed.1
    fun k => decide (k ≠ "event_hash"), h.fields,
    ← PyJson.sortedFields_filter hevent fun k => decide (k ≠ "event_hash")]

end Same

def bundled (read : Dict) : Dict :=
  sortedFields (withoutLine read)

theorem asText?_sortKeys (v : PyValue) : (sortKeys v).asText? = v.asText? := by
  cases v <;> rfl

theorem get_sortedFields (h : (fs.map Prod.fst).Nodup) (k : String)
    : Dict.get (sortedFields fs) k = sortKeys (Dict.get fs k) := by
  unfold Dict.get
  rw [lookup_sortedFields h]
  cases fs.lookup k <;> rfl

theorem get_bundled (h : (read.map Prod.fst).Nodup) (hk : k ≠ "_line")
    : Dict.get (bundled read) k = sortKeys (Dict.get read k) := by
  rw [bundled, get_sortedFields (nodup_withoutLine h), Dict.get, Dict.get, lookup_withoutLine hk]

theorem isOfType_bundled (h : (read.map Prod.fst).Nodup) (eventType : String)
    : isOfType eventType (bundled read) = isOfType eventType read := by
  rw [isOfType, isOfType, get_bundled h (by decide), asText?_sortKeys]

theorem objectPayload_bundled (h : (read.map Prod.fst).Nodup)
    (hpay : objectPayload eventType read = .ok payload)
    : objectPayload eventType (bundled read) = .ok (sortedFields payload) := by
  unfold objectPayload at hpay ⊢
  rw [get_bundled h (by decide)]
  split at hpay
  . next heq =>
    rw [heq, sortKeys_dict, Except.ok.inj hpay]
  . cases hpay

section Lists

variable {reads : List Dict} (h : ∀ read ∈ reads, (read.map Prod.fst).Nodup) {eventType : String}

include h

theorem find?_bundled
    : (reads.map bundled).find? (isOfType eventType) =
      (reads.find? (isOfType eventType)).map bundled := by
  induction reads with
  | nil => rfl
  | cons read reads ih =>
    obtain ⟨hread, hreads⟩ := forall_mem_cons.mp h
    rw [map_cons, find?_cons, find?_cons, isOfType_bundled hread, ih hreads]
    split <;> rfl

theorem requiredLatestPayload_bundled (hpay : requiredLatestPayload reads eventType = .ok payload)
    : requiredLatestPayload (reads.map bundled) eventType = .ok (sortedFields payload) := by
  have hreverse : ∀ read ∈ reads.reverse, (read.map Prod.fst).Nodup :=
    fun read hread => h read (mem_reverse.mp hread)
  unfold requiredLatestPayload at hpay ⊢
  rw [← map_reverse, find?_bundled hreverse]
  split at hpay
  . next read hfind =>
    rw [hfind]
    exact objectPayload_bundled (hreverse read (mem_of_find?_eq_some hfind)) hpay
  . cases hpay

theorem mappingPayloads_bundled (hpayloads : mappingPayloads reads eventType = .ok payloads)
    : mappingPayloads (reads.map bundled) eventType = .ok (payloads.map sortKeys) := by
  simp only [mappingPayloads, bind_eq_ok, pure_inj] at hpayloads ⊢
  obtain ⟨ps, hps, rfl⟩ := hpayloads
  refine ⟨ps.map sortedFields, ?_, ?_⟩
  . induction reads generalizing ps with
    | nil =>
      cases hps
      rfl
    | cons read reads ih =>
      obtain ⟨hread, hreads⟩ := forall_mem_cons.mp h
      rw [map_cons, filter_cons, isOfType_bundled hread]
      rw [filter_cons] at hps
      split
      . next htype =>
        rw [if_pos htype, mapM_cons] at hps
        simp only [bind_eq_ok, pure_inj] at hps
        obtain ⟨_, hp, rest, hrest, rfl⟩ := hps
        rw [mapM_cons, objectPayload_bundled hread hp, ok_bind, ih hreads rest hrest]
        rfl
      . next htype =>
        rw [if_neg htype] at hps
        exact ih hreads ps hps
  . simp [sortKeys_dict]

end Lists

theorem requireObjects_dicts (n : ℕ) (ds : List Dict)
    : requireObjects n (ds.map .dict) = .ok ds := by
  induction ds generalizing n with
  | nil => rfl
  | cons d ds ih => rw [map_cons, requireObjects, ih, ok_bind, pure_eq_ok]

theorem wellFormed_get (h : WellFormed false (.dict fs)) (k : String)
    : WellFormed false (Dict.get fs k) := by
  unfold Dict.get
  cases hlook : fs.lookup k with
  | none => trivial
  | some v => exact PyJson.wellFormedFields_iff.mp h.2 (k, v) (mem_of_lookup hlook)

theorem Clean.get (h : Clean read) (hk : k ≠ "_line") : WellFormed false (Dict.get read k) := by
  have hget := wellFormed_get h.wellFormed k
  rwa [Dict.get, lookup_withoutLine hk] at hget

theorem wellFormed_of_objectPayload (h : Clean read)
    (hpay : objectPayload eventType read = .ok payload)
    : WellFormed false (.dict payload) := by
  have hget := h.get (show "payload" ≠ "_line" by decide)
  unfold objectPayload at hpay
  split at hpay
  . next heq =>
    rw [heq, Except.ok.inj hpay] at hget
    exact hget
  . cases hpay

section Lists

variable {reads : List Dict} (h : ∀ read ∈ reads, Clean read)
  {eventType : String}

include h

theorem wellFormed_of_requiredLatestPayload
    (hpay : requiredLatestPayload reads eventType = .ok payload)
    : WellFormed false (.dict payload) := by
  unfold requiredLatestPayload at hpay
  split at hpay
  . next read hfind =>
    have hmem := mem_reverse.mp (mem_of_find?_eq_some hfind)
    exact wellFormed_of_objectPayload (h read hmem) hpay
  . cases hpay

theorem wellFormed_of_mappingPayloads (hpayloads : mappingPayloads reads eventType = .ok payloads)
    : WellFormed false (.list payloads) := by
  simp only [mappingPayloads, bind_eq_ok, pure_inj, Except.mapM_eq_ok] at hpayloads
  obtain ⟨ps, ⟨-, rfl⟩, rfl⟩ := hpayloads
  apply PyJson.wellFormedElems_iff.mpr
  intro v hv
  obtain ⟨_, hpay, rfl⟩ := mem_map.mp hv
  obtain ⟨read, hread, hpay⟩ := mem_filterMap.mp hpay
  exact wellFormed_of_objectPayload (h read (mem_of_mem_filter hread))
    (Except.toOption_eq_some.mp hpay)

end Lists

structure Summary (reads : List Dict) (summary : Dict) : Prop where
  keys : summary.map Prod.fst = bundleSummaryFields
  wellFormed : WellFormed false (.dict summary)
  bundled : derivedBundleSummary ((reads.map bundled).map .dict) =
    .ok (summary.map fun f => (f.1, sortKeys f.2))

theorem summary_of_eq (h : ∀ read ∈ reads, Clean read)
    (hsummary : derivedBundleSummary (reads.map .dict) = .ok summary)
    : Summary reads summary := by
  have hnodup : ∀ read ∈ reads, (read.map Prod.fst).Nodup := fun read hread => (h read hread).nodup
  simp only [derivedBundleSummary, requireObjects_dicts, ok_bind, bind_eq_ok, pure_inj] at hsummary
  obtain ⟨_, hrun, _, htask, _, hroles, _, hdecs, _, htools, _,
    hchanges, _, htests, _, hfinal, rfl⟩ := hsummary
  have hwellRun := wellFormed_of_requiredLatestPayload h hrun
  constructor
  . rfl
  . refine ⟨show bundleSummaryFields.Nodup by decide, ?_⟩
    exact ⟨wellFormed_get hwellRun _, wellFormed_get hwellRun _, wellFormed_get hwellRun _,
      wellFormed_of_requiredLatestPayload h htask, wellFormed_of_requiredLatestPayload h hroles,
      wellFormed_of_mappingPayloads h hdecs, wellFormed_of_mappingPayloads h htools,
      wellFormed_of_mappingPayloads h hchanges, wellFormed_of_mappingPayloads h htests,
      wellFormed_of_requiredLatestPayload h hfinal, trivial⟩
  . simp only [derivedBundleSummary, requireObjects_dicts, ok_bind,
      requiredLatestPayload_bundled hnodup hrun, requiredLatestPayload_bundled hnodup htask,
      requiredLatestPayload_bundled hnodup hroles, requiredLatestPayload_bundled hnodup hfinal,
      mappingPayloads_bundled hnodup hdecs, mappingPayloads_bundled hnodup htools,
      mappingPayloads_bundled hnodup hchanges, mappingPayloads_bundled hnodup htests,
      get_sortedFields hwellRun.1, map_cons, map_nil, sortKeys, PyJson.sortKeysElems_eq_map]
    rfl

theorem withoutLine_bundled (h : (read.map Prod.fst).Nodup)
    : withoutLine (bundled read) = bundled read := by
  rw [bundled, withoutLine, withoutLine,
    PyJson.sortedFields_filter h fun k => decide (k ≠ "_line"), filter_filter]
  simp

theorem bundled_bundled (h : (read.map Prod.fst).Nodup)
    : bundled (bundled read) = bundled read := by
  have hsort := PyJson.sortKeys_sortKeys (.dict (withoutLine read))
  rw [sortKeys_dict, sortKeys_dict, PyValue.dict.injEq] at hsort
  rw [bundled, withoutLine_bundled h]
  exact hsort

theorem Same.bundled (h : Same read event) : Same (bundled read) event where
  clean := by
    have hsort := PyJson.wellFormed_sortKeys _ h.clean.wellFormed
    rw [sortKeys_dict] at hsort
    refine ⟨hsort.1, ?_⟩
    rw [withoutLine_bundled h.clean.nodup]
    exact hsort
  fields := (bundled_bundled h.clean.nodup).trans h.fields

section Forall

variable {reads events : List Dict} (h : List.Forall₂ Same reads events)

include h

theorem map_of_forall₂_same
    : reads.map (fun read => sortKeys (.dict (withoutLine read))) =
      events.map fun event => sortKeys (.dict event) := by
  induction h with
  | nil => rfl
  | cons hsame _ ih =>
    rw [map_cons, map_cons, ih, sortKeys_dict, sortKeys_dict, hsame.fields]

theorem clean_of_forall₂_same : ∀ read ∈ reads, Clean read := by
  induction h with
  | nil => simp
  | cons hsame _ ih => exact forall_mem_cons.mpr ⟨hsame.clean, ih⟩

theorem forall₂_bundled : List.Forall₂ Same (reads.map bundled) events := by
  induction h with
  | nil => exact .nil
  | cons hsame _ ih => exact .cons hsame.bundled ih

end Forall

theorem same_annotated (h : WellFormed false (.dict event))
    (hline : "_line" ∉ event.map Prod.fst) (n : ℕ)
    : Same (set "_line" (.int n) (sortedFields event)) event := by
  have hlook : (sortedFields event).lookup "_line" = none := by
    rw [lookup_sortedFields h.1, lookup_eq_none.mpr hline]
    rfl
  have hsort := PyJson.wellFormed_sortKeys _ h
  have htwice := PyJson.sortKeys_sortKeys (.dict event)
  rw [sortKeys_dict] at hsort
  rw [sortKeys_dict, sortKeys_dict, PyValue.dict.injEq] at htwice
  have hkeep : withoutLine (sortedFields event) = sortedFields event := by
    apply filter_eq_self.mpr
    intro f hf
    have hne : f.1 ≠ "_line" := by
      intro heq
      exact lookup_eq_none.mp hlook (mem_map.mpr ⟨f, hf, heq⟩)
    simpa using hne
  have hdrop : withoutLine (set "_line" (.int n) (sortedFields event)) = sortedFields event := by
    rw [set_of_lookup_none hlook]
    simpa [withoutLine] using hkeep
  refine ⟨⟨Assoc.Unique.set hsort.1 "_line" _, ?_⟩, by rw [hdrop, htwice]⟩
  rw [hdrop]
  exact hsort

variable [Apcc.Platform] [Interpreter]

theorem replayFrom_same {es read} (h : List.Forall₂ Same read (logger.events es))
    : replayFrom logger.eventIndex logger.previousHash (read.map .dict) =
      .ok (es.foldl AuditLogger.after logger).previousHash := by
  induction es generalizing logger read with
  | nil =>
    cases h
    rfl
  | cons e es ih =>
    rw [AuditLogger.events] at h
    cases h with
    | @cons event _ rest _ hsame hrest =>
      have hnodup := AuditLogger.nodup_event logger e
      have hindex : Dict.get event "event_index" = .int logger.eventIndex :=
        sortKeys_eq_int (hsame.get hnodup (by decide))
      have hprevious : Dict.get event "prev_hash" = .str logger.previousHash :=
        sortKeys_eq_str (hsame.get hnodup (by decide))
      have hhash : Dict.get event "event_hash" = .str (logger.eventHash e) :=
        sortKeys_eq_str (hsame.get hnodup (by decide))
      have hexp : sha256Text (canonicalJson (.dict (hashedFields event))) =
          logger.eventHash e := by
        rw [canonicalJson_dict, eventText, hsame.hashedFields_eq hnodup]
        rfl
      have htail : replayFrom (logger.eventIndex + 1) (logger.eventHash e) (rest.map .dict) =
          .ok (es.foldl AuditLogger.after (logger.after e)).previousHash := ih hrest
      simp only [map_cons, replayFrom, hindex, hprevious, hhash, hexp, raiseIf,
        PyValue.eqInt, PyValue.asText?]
      simpa using htail

section Chain

def hashedText (event : Dict) : String :=
  canonicalJson (.dict (hashedFields event))

/-- Two texts of events have one hash, or one has the hash that a log starts with. -/
def Collides (events : List Dict) : Prop :=
  ∃ e ∈ events, sha256Text (hashedText e) = zeroHash ∨ ∃ e' ∈ events,
    hashedText e ≠ hashedText e' ∧ sha256Text (hashedText e) = sha256Text (hashedText e')

theorem Collides.mono (h : Collides events) (hsub : events ⊆ events') : Collides events' := by
  obtain ⟨e, he, hzero | ⟨e', he', hsame⟩⟩ := h
  . exact ⟨e, hsub he, .inl hzero⟩
  . exact ⟨e, hsub he, .inr ⟨e', hsub he', hsame⟩⟩

theorem exists_replayFrom_concat {events : List Dict}
    (h : replayFrom index previous ((events ++ [event]).map .dict) = .ok chainHash)
    : ∃ middle, replayFrom index previous (events.map .dict) = .ok middle ∧
      (Dict.get event "prev_hash").asText? = some middle ∧
      sha256Text (hashedText event) = chainHash := by
  induction events generalizing index previous with
  | nil =>
    simp only [nil_append, map_cons, map_nil, replayFrom, bind_eq_ok, exists_unit, raiseIf_eq_ok,
      Except.ok.injEq] at h
    exact ⟨previous, rfl, by simpa using h.2.1, h.2.2.2⟩
  | cons e events ih =>
    simp only [cons_append, map_cons, replayFrom, bind_eq_ok, exists_unit, raiseIf_eq_ok] at h ⊢
    obtain ⟨hindex, hprev, hhash, hrest⟩ := h
    obtain ⟨middle, hmiddle, hlast⟩ := ih hrest
    exact ⟨middle, ⟨hindex, hprev, hhash, hmiddle⟩, hlast⟩

omit [Apcc.Platform] in
theorem loads_hashedText [JsonText.LawfulFloats] (h : Clean event)
    : JsonText.reading.loads (hashedText event)
      = some (.dict (sortedFields (hashedFields event))) := by
  rw [hashedText, canonicalJson_dict]
  apply loads_eventText
  have hfields : hashedFields event = (withoutLine event).filter fun f => f.1 ≠ "event_hash" := by
    rw [hashedFields, withoutLine, filter_filter]
    simp
  rw [hfields]
  refine ⟨h.wellFormed.1.sublist (filter_sublist.map _), PyJson.wellFormedFields_iff.mpr ?_⟩
  exact fun f hf => PyJson.wellFormedFields_iff.mp h.wellFormed.2 f (mem_of_mem_filter hf)

omit [Apcc.Platform] [Interpreter] in
theorem asText?_prevHash (h : (event.map Prod.fst).Nodup)
    : (Dict.get (sortedFields (hashedFields event)) "prev_hash").asText? =
      (Dict.get event "prev_hash").asText? := by
  have hfields : hashedFields event = erase "event_hash" (erase "_line" event) := by
    rw [hashedFields, erase, erase, filter_filter]
    simp
  rw [hfields, get_sortedFields (Unique.erase (Unique.erase h _) _), asText?_sortKeys, Dict.get,
    lookup_erase, if_neg (by decide), lookup_erase, if_neg (by decide), Dict.get]

/-- Logs that replay to one hash have the same events, up to the order of their fields. -/
theorem replayHashes_inj [JsonText.LawfulFloats] {events events' : List Dict} {chainHash : String}
    (hwell : ∀ e ∈ events ++ events', Clean e)
    (h : replayHashes (events.map .dict) = .ok chainHash)
    (h' : replayHashes (events'.map .dict) = .ok chainHash)
    : events.map (fun e => sortedFields (hashedFields e)) =
        events'.map (fun e => sortedFields (hashedFields e)) ∨
      Collides (events ++ events') := by
  rw [or_iff_not_imp_right]
  intro hfree
  -- The chains are taken apart from their ends, where the hashes are equal.
  induction events using reverseRecOn generalizing events' chainHash with
  | nil =>
    rcases eq_nil_or_concat' events' with rfl | ⟨events', e, rfl⟩
    . rfl
    . obtain ⟨_, -, -, rfl⟩ := exists_replayFrom_concat h'
      exact absurd ⟨e, by simp, .inl (Except.ok.inj h).symm⟩ hfree
  | append_singleton events e ih =>
    obtain ⟨_, hevents, hprev, rfl⟩ := exists_replayFrom_concat h
    rcases eq_nil_or_concat' events' with rfl | ⟨events', e', rfl⟩
    . exact absurd ⟨e, by simp, .inl (Except.ok.inj h').symm⟩ hfree
    . obtain ⟨_, hevents', hprev', hhash⟩ := exists_replayFrom_concat h'
      have htext : hashedText e = hashedText e' := by
        by_contra hne
        exact hfree ⟨e, by simp, .inr ⟨e', by simp, hne, hhash.symm⟩⟩
      have hloads := loads_hashedText (hwell e (by simp))
      rw [htext, loads_hashedText (hwell e' (by simp)), Option.some.injEq,
        PyValue.dict.injEq] at hloads
      rw [← asText?_prevHash (hwell e (by simp)).nodup, ← hloads,
        asText?_prevHash (hwell e' (by simp)).nodup, hprev', Option.some.injEq] at hprev
      have hsub : events ++ events' ⊆ events ++ [e] ++ (events' ++ [e']) := by
        intro x hx
        rcases mem_append.mp hx with hx | hx <;> simp [hx]
      have hfronts := ih (fun e he => hwell e (hsub he)) hevents (hprev ▸ hevents')
        (mt (·.mono hsub) hfree)
      rw [map_append, map_append, hfronts, map_singleton, map_singleton, hloads]

end Chain

section Bundle

variable [PrivateKeys] {args : BundleArguments} {signer : BundleSigner} {reads : List Dict}
  {summary bundle : Dict} {chainHash : String}

def signedFields (args : BundleArguments) (signer : BundleSigner) (chainHash : String)
    (summary : Dict) (reads : List Dict) : Dict :=
  bundleFields args chainHash summary reads ++
    [("signature", .dict (signatureBlock signer (bundleFields args chainHash summary reads)))]

theorem exists_of_buildBundle (h : buildBundleFromSnapshot args (some signer) reads = .ok bundle)
    : ∃ chainHash summary, replayHashes (reads.map .dict) = .ok chainHash ∧
      derivedBundleSummary (reads.map .dict) = .ok summary ∧
      bundle = signedFields args signer chainHash summary reads := by
  simp only [buildBundleFromSnapshot, unsignedBundle, bind_eq_ok, exists_unit, pure_inj] at h
  obtain ⟨-, ⟨chainHash, hchain, summary, hsummary, -, rfl⟩, rfl⟩ := h
  exact ⟨chainHash, summary, hchain, hsummary, rfl⟩

variable (hbundle : bundle = signedFields args signer chainHash summary reads)

include hbundle

section Keys

variable (h : summary.map Prod.fst = bundleSummaryFields)

include h

theorem keys_signedFields
    : bundle.map Prod.fst = "schema_version" :: "audit_path" ::
        (bundleSummaryFields ++ ["chain_hash", "audit_events", "signature"]) := by
  simp [hbundle, signedFields, bundleFields, h]

theorem nodup_signedFields : (bundle.map Prod.fst).Nodup := by
  rw [keys_signedFields hbundle h]
  decide

theorem get_signedFields (hmem : (k, v) ∈ bundle)
    : Dict.get (sortedFields bundle) k = sortKeys v := by
  have hnodup := nodup_signedFields hbundle h
  rw [get_sortedFields hnodup, Dict.get, (Assoc.Unique.lookup_eq_some hnodup).mpr hmem]
  rfl

theorem preimage_sortedFields
    : bundleAttestationPreimage (sortedFields bundle) =
      bundleAttestationPreimage (bundleFields args chainHash summary reads) := by
  have hnodup := nodup_signedFields hbundle h
  have hfilter : bundle.filter (fun field => decide (field.1 ≠ "signature")) =
      (bundleFields args chainHash summary reads).filter
        fun field => decide (field.1 ≠ "signature") := by
    simp [hbundle, signedFields]
  have hsort : sortKeys (.dict ((sortedFields bundle).filter
        fun field => decide (field.1 ≠ "signature"))) =
      sortKeys (.dict ((bundleFields args chainHash summary reads).filter
        fun field => decide (field.1 ≠ "signature"))) := by
    rw [← PyJson.sortedFields_filter hnodup fun k => decide (k ≠ "signature"), ← sortKeys_dict,
      PyJson.sortKeys_sortKeys, hfilter]
  unfold bundleAttestationPreimage canonicalJson
  congr 2
  rw [sortKeys, sortKeys]
  simp only [PyJson.sortKeysFields, hsort]

theorem schema_signedFields
    : Dict.get (sortedFields bundle) "schema_version" = .int bundleSchemaVersion :=
  get_signedFields (v := .int bundleSchemaVersion) hbundle h
    (by simp [hbundle, signedFields, bundleFields])

end Keys

theorem wellFormed_signedFields (h : Summary reads summary)
    (hreads : ∀ read ∈ reads, Clean read) : WellFormed false (.dict bundle) := by
  refine ⟨nodup_signedFields hbundle h.keys, PyJson.wellFormedFields_iff.mpr ?_⟩
  intro f hf
  simp only [hbundle, signedFields, bundleFields, mem_append, mem_cons, not_mem_nil, or_false] at hf
  rcases hf with (rfl | rfl | hf | rfl | rfl) | rfl
  . trivial
  . trivial
  . exact PyJson.wellFormedFields_iff.mp h.wellFormed.2 f hf
  . trivial
  . apply PyJson.wellFormedElems_iff.mpr
    intro v hv
    obtain ⟨read, hread, rfl⟩ := mem_map.mp hv
    exact (hreads read hread).wellFormed
  . exact ⟨by simp [signatureBlock], trivial, trivial, trivial, trivial, trivial, trivial⟩

section Trusted

variable {trusted : List (String × String)} {publicHex : String}
  (htrusted : trusted.lookup signer.keyId = some publicHex)
  (hpublic : Hex.decode publicHex = some (PrivateKeys.publicBytes signer.privateKey))

include htrusted hpublic

theorem verifyBundleSignature_signed (h : summary.map Prod.fst = bundleSummaryFields)
    : verifyBundleSignature (sortedFields bundle) (some trusted) = .valid := by
  have hnodup : ((signatureBlock signer (bundleFields args chainHash summary reads)).map
      Prod.fst).Nodup := by
    simp [signatureBlock]
  have hsignature : Dict.get (sortedFields bundle) "signature" = .dict (sortedFields
      (signatureBlock signer (bundleFields args chainHash summary reads))) := by
    rw [← sortKeys_dict]
    exact get_signedFields hbundle h (by simp [hbundle, signedFields])
  have hsig : Base64.b64encode (PrivateKeys.sign signer.privateKey
      (bundleAttestationPreimage (bundleFields args chainHash summary reads))) ≠ "" := by
    apply Base64.b64encode_ne_empty
    intro hnil
    have hlen := PrivateKeys.length_sign signer.privateKey
      (bundleAttestationPreimage (bundleFields args chainHash summary reads))
    rw [hnil] at hlen
    cases hlen
  have hverif : verifiesWith publicHex (Hex.encode (PrivateKeys.publicBytes signer.privateKey))
      (Base64.b64encode (PrivateKeys.sign signer.privateKey
        (bundleAttestationPreimage (bundleFields args chainHash summary reads))))
      (bundleAttestationPreimage (bundleFields args chainHash summary reads)) := by
    simp [verifiesWith, hpublic, Base64.b64decode_b64encode, PrivateKeys.verify_sign]
  obtain ⟨key, keys, rfl⟩ : ∃ key keys, trusted = key :: keys := by
    cases trusted with
    | nil => cases htrusted
    | cons key keys => exact ⟨key, keys, rfl⟩
  unfold verifyBundleSignature
  rw [hsignature]
  simp only
  simp only [get_sortedFields hnodup, schema_signedFields hbundle h]
  simp [signatureBlock, Dict.get, List.lookup_cons, sortKeys, PyValue.truthy, hsig, PyValue.eqInt,
    PyValue.asText?, htrusted, preimage_sortedFields hbundle h, hverif]

theorem verifyObject_signed (h : Summary reads summary)
    (hchain : replayHashes ((reads.map bundled).map .dict) = .ok chainHash)
    : (verifyObject (sortedFields bundle) (some trusted)).ok := by
  have hevents : Dict.get (sortedFields bundle) "audit_events" =
      .list ((reads.map bundled).map .dict) := by
    have hget : Dict.get (sortedFields bundle) "audit_events" =
        sortKeys (.list (reads.map fun event => .dict (withoutLine event))) :=
      get_signedFields hbundle h.keys (by simp [hbundle, signedFields, bundleFields])
    rw [hget, sortKeys, PyJson.sortKeysElems_eq_map, map_map, map_map]
    simp only [Function.comp_def, sortKeys_dict, bundled]
  have hhash : Dict.get (sortedFields bundle) "chain_hash" = .str chainHash :=
    get_signedFields (v := .str chainHash) hbundle h.keys
      (by simp [hbundle, signedFields, bundleFields])
  have hflds : ∀ field ∈ bundleSummaryFields, PyValue.pyEq (Dict.get (sortedFields bundle) field)
      (Dict.get (summary.map fun f => (f.1, sortKeys f.2)) field) := by
    intro field hfield
    rw [← h.keys] at hfield
    obtain ⟨⟨k, v⟩, hmem, rfl⟩ := mem_map.mp hfield
    have hnodup : ((summary.map fun f => (f.1, sortKeys f.2)).map Prod.fst).Nodup := by
      rw [map_map]
      exact h.wellFormed.1
    have hright : Dict.get (summary.map fun f => (f.1, sortKeys f.2)) k = sortKeys v := by
      rw [Dict.get, (Assoc.Unique.lookup_eq_some hnodup).mpr (mem_map.mpr ⟨_, hmem, rfl⟩)]
      rfl
    have hleft : Dict.get (sortedFields bundle) k = sortKeys v :=
      get_signedFields hbundle h.keys (by simp [hbundle, signedFields, bundleFields, hmem])
    rw [hleft, hright]
    apply PyValue.pyEq_self
    apply PyJson.wellFormed_sortKeys
    exact PyJson.wellFormedFields_iff.mp h.wellFormed.2 (k, v) hmem
  have hstatus := verifyBundleSignature_signed hbundle htrusted hpublic h.keys
  unfold verifyObject
  simp only [hevents, hchain, h.bundled, ok_bind, hhash, hstatus,
    schema_signedFields hbundle h.keys]
  simpa [PyValue.eqInt, PyValue.asText?, pure, Except.pure] using hflds

end Trusted

omit [PrivateKeys] hbundle in
theorem verifyBundle_bundleBytes [JsonText.LawfulFloats] (h : WellFormed false (.dict bundle))
    (trusted : TrustedKeys)
    : verifyBundle (some (bundleBytes bundle)) trusted =
      .ok (verifyObject (sortedFields bundle) trusted) := by
  have hreturn : '\r' ∉ PyJson.renderIndented Interpreter.floatRepr 0 (sortKeys (.dict bundle)) ++
      ['\n'] := by
    intro hmem
    rcases mem_append.mp hmem with hmem | hmem
    . rcases PyJson.printableLine_renderIndented JsonText.LawfulFloats.literal 0 _
        (PyJson.wellFormed_sortKeys _ h) _ hmem with h | h
      . exact absurd h (by decide)
      . cases h
    . simp at hmem
  have hwell : WellFormed true (.dict bundle) := .of_false _ h
  have hloads : JsonText.reading.loads (String.ofList (PyJson.renderIndented Interpreter.floatRepr 0
      (sortKeys (.dict bundle)) ++ ['\n'])) = some (sortKeys (.dict bundle)) :=
    PyJson.loads_renderIndented (JsonText.reads true) (PyJson.wellFormed_sortKeys _ hwell)
  rw [sortKeys_dict] at hreturn hloads
  simp only [verifyBundle, bundleBytes, Bytes.decodeUTF8_encodeUTF8, String.toList_ofList,
    sortKeys_dict, Lines.universal_of_notMem hreturn, hloads]

end Bundle

theorem forall₂_annotated (logger : AuditLogger) (h : logger.Numbered es.length) (n : ℕ)
    : List.Forall₂ Same (annotated n (logger.events es)) (logger.events es) := by
  induction es generalizing logger n with
  | nil => exact .nil
  | cons e es ih =>
    obtain ⟨hfits, h⟩ := AuditLogger.numbered_succ.mp h
    refine .cons ?_ (ih _ h _)
    apply same_annotated (AuditLogger.wellFormed_event hfits e)
    simp [AuditLogger.event, AuditLogger.base]

structure Carries (read : Dict) (e : Emission) : Prop where
  eventType : Dict.get read "event_type" = .str e.eventType
  payload : ∃ payload, Dict.get read "payload" = .dict payload ∧
    ∀ k s, e.payload.lookup k = some (.str s) → Dict.get payload k = .str s

theorem Same.carries (h : Same read (logger.event e)) : Carries read e := by
  have hnodup := AuditLogger.nodup_event logger e
  constructor
  . exact sortKeys_eq_str (h.get hnodup (by decide))
  . have hget : sortKeys (Dict.get read "payload") = .dict (sortedFields e.payload) := by
      rw [h.get hnodup (by decide), ← sortKeys_dict]
      rfl
    have hwell := h.clean.get (show "payload" ≠ "_line" by decide)
    cases hpay : Dict.get read "payload" with
    | dict payload =>
      rw [hpay] at hwell
      rw [hpay, sortKeys_dict, PyValue.dict.injEq] at hget
      refine ⟨payload, rfl, ?_⟩
      intro k s hk
      apply sortKeys_eq_str
      rw [← get_sortedFields hwell.1, hget, Dict.get, lookup_sortedFields e.wellFormed.1, hk]
      rfl
    | _ => simp [hpay, sortKeys] at hget

theorem forall₂_carries
    (h : List.Forall₂ Same reads (logger.events es)) : List.Forall₂ Carries reads es := by
  induction es generalizing logger reads with
  | nil =>
    cases h
    exact .nil
  | cons e es ih =>
    rw [AuditLogger.events] at h
    cases h with
    | cons hsame hrest => exact .cons hsame.carries (ih hrest)

section Carries

variable {reads : List Dict} {es : List Emission}

omit [Apcc.Platform] [Interpreter] in
theorem Carries.isOfType_eq (h : Carries read e) (eventType : String)
    : isOfType eventType read = decide (e.eventType = eventType) := by
  rw [isOfType, h.eventType]
  simp [PyValue.asText?]

omit [Apcc.Platform] [Interpreter] in
theorem exists_requiredLatestPayload (h : List.Forall₂ Carries reads es)
    (he : es.reverse.find? (fun e => e.eventType = eventType) = some e)
    : ∃ payload, requiredLatestPayload reads eventType = .ok payload ∧
      ∀ k s, e.payload.lookup k = some (.str s) → Dict.get payload k = .str s := by
  have hfind : ∀ {reads : List Dict} {es : List Emission}, List.Forall₂ Carries reads es →
      es.find? (fun e => e.eventType = eventType) = some e →
      ∃ read, reads.find? (isOfType eventType) = some read ∧ Carries read e := by
    intro reads es h he
    induction h with
    | nil => cases he
    | cons hcarries _ ih =>
      rw [find?_cons] at he
      rw [find?_cons, hcarries.isOfType_eq]
      split at he
      . exact ⟨_, rfl, Option.some.inj he ▸ hcarries⟩
      . exact ih he
  obtain ⟨read, hread, hcarries⟩ := hfind (rel_reverse h) he
  obtain ⟨payload, hpay, hflds⟩ := hcarries.payload
  refine ⟨payload, ?_, hflds⟩
  rw [requiredLatestPayload, hread]
  simp only [objectPayload, hpay]

omit [Apcc.Platform] [Interpreter] in
theorem exists_mappingPayloads (h : List.Forall₂ Carries reads es) (eventType : String)
    : ∃ payloads, mappingPayloads reads eventType = .ok payloads := by
  have hall : ∀ read ∈ reads, ∃ payload, objectPayload eventType read = .ok payload := by
    induction h with
    | nil => simp
    | cons hcarries _ ih =>
      obtain ⟨payload, hpay, -⟩ := hcarries.payload
      refine forall_mem_cons.mpr ⟨⟨payload, ?_⟩, ih⟩
      simp only [objectPayload, hpay]
  have hkept : ∀ read ∈ reads.filter (isOfType eventType), ∃ payload,
      objectPayload eventType read = .ok payload :=
    fun read hread => hall read (mem_of_mem_filter hread)
  rw [mappingPayloads, Except.mapM_eq_ok.mpr ⟨hkept, rfl⟩]
  exact ⟨_, rfl⟩

theorem exists_buildBundle [PrivateKeys] {logger : AuditLogger}
    (h : List.Forall₂ Same reads (logger.events es)) (args : BundleArguments)
    (signer : Option BundleSigner) {run task roles final : Emission}
    (hrun : es.reverse.find? (fun e => e.eventType = "run_metadata") = some run)
    (htask : es.reverse.find? (fun e => e.eventType = "task_metadata") = some task)
    (hroles : es.reverse.find? (fun e => e.eventType = "role_assignments") = some roles)
    (hfinal : es.reverse.find? (fun e => e.eventType = "final_state") = some final)
    (hmeta : ∀ f ∈ args.expectedMetadata, run.payload.lookup f.1 = some (.str f.2))
    (hstart : logger.eventIndex = 0 ∧ logger.previousHash = zeroHash)
    : ∃ bundle, buildBundleFromSnapshot args signer reads = .ok bundle := by
  have hcarries := forall₂_carries h
  obtain ⟨runPayload, hrunPayload, hflds⟩ := exists_requiredLatestPayload hcarries hrun
  obtain ⟨_, htaskPayload, -⟩ := exists_requiredLatestPayload hcarries htask
  obtain ⟨_, hrolesPayload, -⟩ := exists_requiredLatestPayload hcarries hroles
  obtain ⟨_, hfinalPayload, -⟩ := exists_requiredLatestPayload hcarries hfinal
  obtain ⟨_, hdecs⟩ := exists_mappingPayloads hcarries "policy_decision"
  obtain ⟨_, htools⟩ := exists_mappingPayloads hcarries "tool_event"
  obtain ⟨_, hchanges⟩ := exists_mappingPayloads hcarries "file_change"
  obtain ⟨_, htests⟩ := exists_mappingPayloads hcarries "test_run"
  have hchain := replayFrom_same h
  rw [hstart.1, hstart.2] at hchain
  have hvers : ∀ k s, (k, s) ∈ args.expectedMetadata → Dict.get runPayload k = .str s :=
    fun k s hmem => hflds k s (hmeta (k, s) hmem)
  simp only [BundleArguments.expectedMetadata, mem_cons, not_mem_nil, or_false,
    Prod.mk.injEq] at hvers
  have hunsigned : ∃ bundle, unsignedBundle args reads = .ok bundle := by
    simp only [unsignedBundle, replayHashes, hchain, ok_bind, derivedBundleSummary,
      requireObjects_dicts, hrunPayload, htaskPayload, hrolesPayload, hfinalPayload, hdecs,
      htools, hchanges, htests, hvers "constitution_hash" _ (.inl ⟨rfl, rfl⟩),
      hvers "constitutional_version" _ (.inr (.inl ⟨rfl, rfl⟩)),
      hvers "workflow_hash" _ (.inr (.inr ⟨rfl, rfl⟩)), pure, Except.pure]
    rw [(Except.forM_eq_ok (u := ())).mpr]
    . exact ⟨_, rfl⟩
    . simp [BundleArguments.expectedMetadata, raiseIf, Dict.get, List.lookup_cons, PyValue.asText?]
  obtain ⟨bundle, hbundle⟩ := hunsigned
  rw [buildBundleFromSnapshot, hbundle]
  cases signer with
  | none => exact ⟨_, rfl⟩
  | some signer => exact ⟨_, rfl⟩

end Carries

/--
What was emitted is read back, its chain replays to the last hash of the logger, and a bundle that
is signed over it is accepted, exactly when no string that was emitted contains a line or paragraph
separator above ASCII.
-/
theorem audit_log_reads_back_iff [PrivateKeys] [JsonText.LawfulFloats] {taskId : String}
    {es : List Emission} {events : List Dict} {logger : AuditLogger}
    (h : AuditLogger.emitAll { taskId } es = .ok (events, logger))
    : (∃ reads, logger.readEvents = .ok reads ∧
        reads.map (fun read => sortKeys (.dict (withoutLine read))) =
          events.map (fun event => sortKeys (.dict event)) ∧
        replayHashes (reads.map .dict) = .ok logger.previousHash ∧
        ∀ (args : BundleArguments) (signer : BundleSigner) (bundle : Dict)
          (trusted : List (String × String)) (publicHex : String),
          buildBundleFromSnapshot args (some signer) reads = .ok bundle →
          trusted.lookup signer.keyId = some publicHex →
          Hex.decode publicHex = some (PrivateKeys.publicBytes signer.privateKey) →
          ∃ result, verifyBundle (some (bundleBytes bundle)) (some trusted) = .ok result ∧
            result.ok = true) ↔
      ∀ e ∈ es, e.OneLine taskId := by
  rw [AuditLogger.emitAll_eq_ok rfl, Prod.mk.injEq] at h
  obtain ⟨hnumbered, rfl, rfl⟩ := h
  constructor
  . rintro ⟨reads, hreads, -⟩
    by_contra hbroken
    obtain ⟨_, herror⟩ := AuditLogger.readEvents_broken hnumbered hbroken
    rw [herror] at hreads
    cases hreads
  . intro hline
    have hsame := forall₂_annotated { taskId } hnumbered 1
    refine ⟨_, AuditLogger.readEvents_of_oneLine hnumbered hline, ?_, replayFrom_same hsame, ?_⟩
    . exact map_of_forall₂_same hsame
    . intro args signer bundle trusted publicHex hbuild htrusted hpublic
      obtain ⟨chainHash, _, hchain, hsummary, rfl⟩ := exists_of_buildBundle hbuild
      have hwell := clean_of_forall₂_same hsame
      have hsummary := summary_of_eq hwell hsummary
      -- The events of the bundle replay to the same hash as those of the snapshot.
      have hbundled : replayHashes (((annotated 1 (AuditLogger.events { taskId } es)).map
          bundled).map .dict) = .ok chainHash := by
        rw [← hchain]
        exact (replayFrom_same (forall₂_bundled hsame)).trans (replayFrom_same hsame).symm
      refine ⟨_, verifyBundle_bundleBytes (wellFormed_signedFields rfl hsummary hwell) _, ?_⟩
      exact verifyObject_signed rfl htrusted hpublic hsummary hbundled

end Handoff

namespace Handoff.Sample

open PyValue (Dict)
open scoped Apcc.Sample JsonText.Sample

scoped instance privateKeys : PrivateKeys where
  PrivateKey := Unit
  publicBytes _ := []
  sign _ _ := List.replicate 64 0
  length_sign _ _ := List.length_replicate
  verify_sign _ _ := rfl

theorem isDouble_zero : PyFloat.IsDouble 0 :=
  PyFloat.isDouble_of_lt (n := 0) (by decide)

def fileChange (path : String) : Emission :=
  ⟨"executor", "file_change", [("path", .str path)], 0,
    by simp [PyJson.WellFormed, PyJson.WellFormedFields], isDouble_zero⟩

/-- A path with a line separator in it is emitted, and then nothing is read. -/
theorem line_separator_breaks_log
    : ∃ events logger error,
      AuditLogger.emitAll ⟨"task", zeroHash, 0, some []⟩ [fileChange "a\u2028b"] =
        .ok (events, logger) ∧ logger.readEvents = .error error := by
  have hbroken : ¬∀ e ∈ [fileChange "a\u2028b"], e.OneLine "task" := by
    intro h
    exact h _ List.mem_cons_self "a\u2028b" (by simp [Emission.strings, fileChange, PyJson.texts,
      PyJson.textsFields]) '\u2028' (by decide) (.inr (.inl rfl))
  have hnumbered : AuditLogger.Numbered ⟨"task", zeroHash, 0, some []⟩ 1 := by decide
  obtain ⟨error, herror⟩ := AuditLogger.readEvents_broken hnumbered hbroken
  exact ⟨_, _, error, (AuditLogger.emitAll_eq_ok rfl).mpr ⟨hnumbered, rfl⟩, herror⟩

def args : BundleArguments :=
  ⟨".acgs/evidence/task.audit.jsonl", "constitution", "workflow", "version"⟩

def emissions : List Emission :=
  [⟨"observer", "run_metadata", [("constitution_hash", .str "constitution"),
      ("constitutional_version", .str "version"),
      ("workflow_hash", .str "workflow")], 0, by decide, isDouble_zero⟩,
    ⟨"observer", "task_metadata", [], 0, by decide, isDouble_zero⟩,
    ⟨"observer", "role_assignments", [], 0, by decide, isDouble_zero⟩, fileChange "a",
    ⟨"observer", "final_state", [("state", .str "handoff_ready")], 0, by decide, isDouble_zero⟩]

theorem oneLine_emissions : ∀ e ∈ emissions, e.OneLine "task" := by
  decide +kernel

theorem numbered_emissions
    : AuditLogger.Numbered ⟨"task", zeroHash, 0, some []⟩ emissions.length := by
  decide

theorem audit_log_reads_back_run
    : ∃ events logger reads bundle result,
      AuditLogger.emitAll ⟨"task", zeroHash, 0, some []⟩ emissions = .ok (events, logger) ∧
      logger.readEvents = .ok reads ∧
      buildBundleFromSnapshot args (some ⟨"key", ()⟩) reads = .ok bundle ∧
      verifyBundle (some (bundleBytes bundle)) (some [("key", "")]) = .ok result ∧
      result.ok = true := by
  have hemit : AuditLogger.emitAll ⟨"task", zeroHash, 0, some []⟩ emissions =
      .ok (AuditLogger.events ⟨"task", zeroHash, 0, some []⟩ emissions,
        emissions.foldl AuditLogger.after ⟨"task", zeroHash, 0, some []⟩) :=
    (AuditLogger.emitAll_eq_ok rfl).mpr ⟨numbered_emissions, rfl⟩
  obtain ⟨reads, hreads, -, -, hacc⟩ :=
    (audit_log_reads_back_iff hemit).mpr oneLine_emissions
  have hread := AuditLogger.readEvents_of_oneLine numbered_emissions oneLine_emissions
  rw [hreads, Except.ok.injEq] at hread
  have hsame := forall₂_annotated _ numbered_emissions 1
  rw [← hread] at hsame
  obtain ⟨bundle, hbundle⟩ := exists_buildBundle hsame args (some ⟨"key", ()⟩) rfl rfl rfl rfl
    (by simp [args, BundleArguments.expectedMetadata, List.lookup_cons]) ⟨rfl, rfl⟩
  obtain ⟨result, hres, hok⟩ := hacc args ⟨"key", ()⟩ bundle [("key", "")] "" hbundle rfl rfl
  exact ⟨_, _, reads, bundle, result, hemit, hreads, hbundle, hres, hok⟩

theorem replayHashes_inj_emissions
    : let log n := annotated n (AuditLogger.events ⟨"task", zeroHash, 0, some []⟩ emissions)
      (log 1).map (fun e => PyJson.sortedFields (hashedFields e)) =
          (log 2).map (fun e => PyJson.sortedFields (hashedFields e)) ∨
        Collides (log 1 ++ log 2) := by
  have hsame := forall₂_annotated _ numbered_emissions
  have hwell n := clean_of_forall₂_same (hsame n)
  exact replayHashes_inj (List.forall_mem_append.mpr ⟨hwell 1, hwell 2⟩)
    (replayFrom_same (hsame 1)) (replayFrom_same (hsame 2))

end Handoff.Sample
