import ConstitutionalSwarm.Data.PyJsonTexts
import ConstitutionalSwarm.Handoff.Audit
import Mathlib.Data.List.TakeWhile

namespace Handoff

open Raising List Lines
open PyJson (Plain Printable plain_cons plain_nil OccursIn sortedFields sortKeys_dict texts)
open PyValue (Dict)

def IsSeparator (c : Char) : Prop :=
  c = '\x85' ∨ c = '\u2028' ∨ c = '\u2029'

instance (c : Char) : Decidable (IsSeparator c) :=
  inferInstanceAs (Decidable (_ ∨ _))

theorem isBoundary_iff (h : 0x7e < c.toNat)
    : isBoundary c ↔ IsSeparator c := by
  have hne : ∀ d : Char, d.toNat ≤ 0x7e → c ≠ d := by
    rintro d hd rfl
    omega
  simp [isBoundary, IsSeparator, hne '\n' (by decide), hne '\r' (by decide),
    hne '\x0b' (by decide), hne '\x0c' (by decide), hne '\x1c' (by decide), hne '\x1d' (by decide),
    hne '\x1e' (by decide), or_assoc]

theorem not_printable_of_isBoundary (h : isBoundary c) : ¬Printable c := by
  simp only [isBoundary, Bool.or_eq_true, decide_eq_true_eq] at h
  rcases h with ((((((((rfl | rfl) | rfl) | rfl) | rfl) | rfl) | rfl) | rfl) | rfl) | rfl <;> decide

theorem IsSeparator.isBoundary (h : IsSeparator c) : isBoundary c := by
  rcases h with rfl | rfl | rfl <;> decide

theorem IsSeparator.large (h : IsSeparator c) : 0x7e < c.toNat := by
  rcases h with rfl | rfl | rfl <;> decide

theorem plain_encode (raw : Bytes) : Plain (Hex.encode raw).toList := by
  have hdigit : ∀ n < 16, Printable (Hex.digit n) := by decide
  rw [Hex.encode, String.toList_ofList]
  intro c hc
  obtain ⟨b, -, hb⟩ := mem_flatMap.mp hc
  have hlt := b.toNat_lt
  simp only [Hex.encodeByte, mem_cons, not_mem_nil, or_false] at hb
  rcases hb with rfl | rfl
  . exact hdigit _ (by omega)
  . exact hdigit _ (by omega)

theorem plain_zeroHash : Plain zeroHash.toList := by
  unfold zeroHash
  rw [String.toList_ofList]
  intro c hc
  have hzero : Printable '0' := by decide
  exact eq_of_mem_replicate hc ▸ hzero

theorem strip_ne_nil (hc : PyInt.isSpace c = false)
    : PyInt.strip (c :: cs) ≠ [] := by
  have hdrop : (c :: cs).dropWhile PyInt.isSpace = c :: cs := by
    rw [dropWhile_cons_of_neg (by simp [hc])]
  intro hnil
  rw [PyInt.strip, hdrop, reverse_eq_nil_iff, dropWhile_eq_nil_iff] at hnil
  have hspace := hnil c (by simp)
  rw [hc] at hspace
  cases hspace

theorem exists_first_boundary (h : ¬∀ c ∈ cs, isBoundary c = false)
    : ∃ front b back, cs = front ++ b :: back ∧ (∀ c ∈ front, isBoundary c = false) ∧
      isBoundary b := by
  induction cs with
  | nil => simp at h
  | cons c cs ih =>
    cases hc : isBoundary c with
    | true => exact ⟨[], c, cs, rfl, by simp, hc⟩
    | false =>
      rw [forall_mem_cons, not_and] at h
      obtain ⟨front, b, back, rfl, hfront, hb⟩ := ih (h hc)
      exact ⟨c :: front, b, back, rfl, forall_mem_cons.mpr ⟨hc, hfront⟩, hb⟩

variable [Interpreter]

def eventText (event : Dict) : List Char :=
  PyJson.render ⟨false, false⟩ Interpreter.floatRepr (.dict (sortedFields event))

theorem canonicalJson_dict (event : Dict)
    : canonicalJson (.dict event) = String.ofList (eventText event) := by
  rw [canonicalJson, sortKeys_dict]
  rfl

def Emission.strings (taskId : String) (e : Emission) : List String :=
  taskId :: e.role :: e.eventType :: texts (.dict e.payload)

def Emission.OneLine (taskId : String) (e : Emission) : Prop :=
  ∀ s ∈ e.strings taskId, ∀ c ∈ s.toList, ¬IsSeparator c

instance (taskId : String) (e : Emission) : Decidable (e.OneLine taskId) :=
  inferInstanceAs (Decidable (∀ s ∈ _, _))

theorem exists_eventText (event : Dict)
    : ∃ body, eventText event = '\x7b' :: (body ++ ['\x7d']) :=
  PyJson.exists_render_dict _ _

variable [Apcc.Platform]

namespace AuditLogger

def after (logger : AuditLogger) (e : Emission) : AuditLogger :=
  { logger with
    file := logger.file.map (· ++ (canonicalJson (.dict (logger.event e)) ++ "\n").encodeUTF8)
    previousHash := logger.eventHash e, eventIndex := logger.eventIndex + 1 }

def events : AuditLogger → List Emission → List Dict
  | _, [] => []
  | logger, e :: es => logger.event e :: (logger.after e).events es

variable {logger : AuditLogger} {e : Emission} {es : List Emission}

/-- The next emissions get indices that can be written. -/
abbrev Numbered (logger : AuditLogger) (count : ℕ) : Prop :=
  ∀ i < count, PyInt.fits (logger.eventIndex + i : ℕ)

theorem numbered_succ
    : logger.Numbered (n + 1) ↔ PyInt.fits logger.eventIndex ∧ (logger.after e).Numbered n := by
  constructor
  . intro h
    refine ⟨h 0 n.succ_pos, fun i hi => ?_⟩
    rw [after, Nat.add_right_comm]
    exact h (i + 1) (Nat.succ_lt_succ hi)
  . rintro ⟨hfirst, hrest⟩ i hi
    cases i with
    | zero => exact hfirst
    | succ i =>
      have hi := hrest i (Nat.lt_of_succ_lt_succ hi)
      rwa [after, Nat.add_right_comm] at hi

theorem nodup_event (logger : AuditLogger) (e : Emission)
    : ((logger.event e).map Prod.fst).Nodup := by
  simp [event, base]

theorem wellFormed_event (h : PyInt.fits logger.eventIndex) (e : Emission)
    : PyJson.WellFormed false (.dict (logger.event e)) := by
  refine ⟨nodup_event logger e, ?_⟩
  simp only [event, base, cons_append, nil_append, PyJson.WellFormedFields,
    PyJson.WellFormed, true_and, and_true]
  exact ⟨h, e.double, e.wellFormed⟩

theorem occursIn_event (hplain : Plain logger.previousHash.toList) (hc : ¬Printable c)
    : OccursIn c (texts (.dict (logger.event e))) ↔ OccursIn c (e.strings logger.taskId) := by
  have hskip : ∀ {s : String} {ss : List String}, Plain s.toList →
      (OccursIn c (s :: ss) ↔ OccursIn c ss) := by
    intro s ss hs
    rw [PyJson.occursIn_cons]
    apply or_iff_right
    rintro ⟨-, t, ht, hmem⟩
    rw [mem_singleton.mp ht] at hmem
    exact hc (hs c hmem)
  have hkey : ∀ k ∈ ["event_index", "timestamp", "task_id", "role", "event_type", "payload",
      "prev_hash", "event_hash"], Plain k.toList := by
    unfold Plain
    decide
  have htail : ∀ ss : List String, (OccursIn c (ss ++ ["prev_hash", logger.previousHash,
      "event_hash", logger.eventHash e]) ↔ OccursIn c ss) := by
    intro ss
    rw [PyJson.occursIn_append, hskip (hkey _ (by simp)), hskip hplain, hskip (hkey _ (by simp)),
      hskip (show Plain (logger.eventHash e).toList from plain_encode _)]
    exact or_iff_left PyJson.not_occursIn_nil
  have hcons : ∀ {s : String} {ss ts : List String}, (OccursIn c ss ↔ OccursIn c ts) →
      (OccursIn c (s :: ss) ↔ OccursIn c (s :: ts)) := by
    intro s ss ts h
    rw [PyJson.occursIn_cons, h, ← PyJson.occursIn_cons]
  have htexts : texts (.dict (logger.event e)) = "event_index" :: "timestamp" :: "task_id" ::
      logger.taskId :: "role" :: e.role :: "event_type" :: e.eventType :: "payload" ::
      (texts (.dict e.payload) ++ ["prev_hash", logger.previousHash, "event_hash",
        logger.eventHash e]) := by
    simp [event, base, texts, PyJson.textsFields]
  rw [htexts, hskip (hkey _ (by simp)), hskip (hkey _ (by simp)), hskip (hkey _ (by simp))]
  apply hcons
  rw [hskip (hkey _ (by simp))]
  apply hcons
  rw [hskip (hkey _ (by simp))]
  apply hcons
  rw [hskip (hkey _ (by simp))]
  exact htail _

theorem oneLine_iff [JsonText.LawfulFloats] (hfits : PyInt.fits logger.eventIndex)
    (hplain : Plain logger.previousHash.toList)
    : e.OneLine logger.taskId ↔ ∀ c ∈ eventText (logger.event e), isBoundary c = false := by
  have hmem : ∀ {c : Char}, ¬Printable c →
      (c ∈ eventText (logger.event e) ↔ OccursIn c (e.strings logger.taskId)) := by
    intro c hc
    have hwell := PyJson.wellFormed_sortKeys _ (wellFormed_event hfits e)
    rw [sortKeys_dict] at hwell
    rw [← occursIn_event hplain hc, eventText,
      PyJson.mem_render hc _ JsonText.LawfulFloats.literal _ hwell, ← sortKeys_dict]
    simp only [PyJson.OccursIn, (PyJson.texts_sortKeys _).mem_iff]
  constructor
  . intro h c hc
    by_contra hboundary
    rw [Bool.not_eq_false] at hboundary
    obtain ⟨hlarge, s, hs, hcs⟩ := (hmem (not_printable_of_isBoundary hboundary)).mp hc
    exact h s hs c hcs ((isBoundary_iff hlarge).mp hboundary)
  . intro h s hs c hcs hseparator
    have hboundary := hseparator.isBoundary
    have hc := (hmem (not_printable_of_isBoundary hboundary)).mpr ⟨hseparator.large, s, hs, hcs⟩
    rw [h c hc] at hboundary
    cases hboundary

end AuditLogger

section Lines

variable [JsonText.LawfulFloats] {event : Dict} (hevent : PyJson.WellFormed false (.dict event))

include hevent

omit [Apcc.Platform] in
theorem loads_eventText
    : JsonText.reading.loads (String.ofList (eventText event)) =
      some (.dict (sortedFields event)) := by
  have hwell : PyJson.WellFormed true (.dict event) := .of_false _ hevent
  have hwell := PyJson.wellFormed_sortKeys _ hwell
  rw [sortKeys_dict] at hwell
  exact PyJson.loads_dumps (JsonText.reads true) ⟨false, false⟩ hwell

omit [Apcc.Platform] in
theorem parseLines_eventText (hline : ∀ c ∈ eventText event, isBoundary c = false) (n : ℕ)
    (rest : List Char)
    : parseLines n (splitlines (eventText event ++ '\n' :: rest)) = do
      let events ← parseLines (n + 1) (splitlines rest)
      return Assoc.set "_line" (.int n) (sortedFields event) :: events := by
  obtain ⟨_, hbody⟩ := exists_eventText event
  have hstrip : PyInt.strip (eventText event) ≠ [] := by
    rw [hbody]
    exact strip_ne_nil (by decide)
  rw [splitlines_append hline (by decide) (by decide), parseLines, if_neg hstrip,
    loads_eventText hevent]

omit [Apcc.Platform] in
theorem parseLines_broken (hline : ¬∀ c ∈ eventText event, isBoundary c = false) (n : ℕ)
    (rest : List Char)
    : ∃ error, parseLines n (splitlines (eventText event ++ rest)) = .error error := by
  have hwell : PyJson.WellFormed true (.dict event) := .of_false _ hevent
  have hwell := PyJson.wellFormed_sortKeys _ hwell
  rw [sortKeys_dict] at hwell
  obtain ⟨_, hbody⟩ := exists_eventText event
  obtain ⟨front, b, back, hsplit, hfront, hb⟩ := exists_first_boundary hline
  have hreturn : b ≠ '\r' := by
    rintro rfl
    have hmem : '\r' ∈ eventText event := by simp [hsplit]
    rw [eventText, PyJson.mem_render (by decide) _ JsonText.LawfulFloats.literal _ hwell] at hmem
    exact absurd hmem.1 (by decide)
  have htorn : JsonText.reading.loads (String.ofList front) = none :=
    PyJson.loads_torn (JsonText.reads true) ⟨false, false⟩ hwell hsplit (cons_ne_nil b back)
  have hstrip : PyInt.strip front ≠ [] := by
    cases front with
    | nil =>
      rw [hbody, nil_append, cons.injEq] at hsplit
      rw [← hsplit.1] at hb
      cases hb
    | cons c front =>
      rw [hbody, cons_append, cons.injEq] at hsplit
      rw [← hsplit.1]
      exact strip_ne_nil (by decide)
  rw [hsplit, append_assoc, cons_append, splitlines_append hfront hb hreturn,
    parseLines, if_neg hstrip, htorn]
  exact ⟨_, rfl⟩

end Lines

def content (events : List Dict) : List Char :=
  events.flatMap fun event => eventText event ++ ['\n']

def annotated : ℕ → List Dict → List Dict
  | _, [] => []
  | n, event :: events =>
    Assoc.set "_line" (.int n) (sortedFields event) :: annotated (n + 1) events

namespace AuditLogger

variable {logger : AuditLogger} {es : List Emission}

theorem emitAll_eq_ok (hopen : logger.file.isSome)
    : logger.emitAll es = .ok r ↔
      logger.Numbered es.length ∧ (logger.events es, es.foldl after logger) = r := by
  induction es generalizing logger r with
  | nil => simp [emitAll, Numbered, events]
  | cons e es ih =>
    obtain ⟨_, hfile⟩ := Option.isSome_iff_exists.mp hopen
    have hrest {r} := ih (r := r) (show (logger.after e).file.isSome = true by simp [after, hfile])
    rw [length_cons, numbered_succ]
    by_cases hfits : PyInt.fits logger.eventIndex
    . have hemit : logger.emit e = .ok (logger.event e, logger.after e) := by
        rw [emit, after, hfile]
        exact if_pos hfits
      simp only [emitAll, hemit, ok_bind, bind_eq_ok, hrest, hfits, true_and, pure_inj, events,
        foldl_cons]
      constructor
      . rintro ⟨_, ⟨hnumbered, rfl⟩, rfl⟩
        exact ⟨hnumbered, rfl⟩
      . rintro ⟨hnumbered, rfl⟩
        exact ⟨_, ⟨hnumbered, rfl⟩, rfl⟩
    . simp [emitAll, emit, hfile, hfits]

theorem file_foldl_after (logger : AuditLogger) (es : List Emission)
    : (es.foldl after logger).file = logger.file.map
      (· ++ (String.ofList (content (logger.events es))).encodeUTF8) := by
  induction es generalizing logger with
  | nil =>
    have hnil : (String.ofList (content (logger.events []))).encodeUTF8 = [] := rfl
    simp [hnil]
  | cons e es ih =>
    have hfile : (logger.after e).file = logger.file.map
        (· ++ (String.ofList (eventText (logger.event e) ++ ['\n'])).encodeUTF8) := by
      rw [after, canonicalJson_dict, String.ofList_append]
    rw [foldl_cons, ih, hfile, Option.map_map]
    congr 1
    funext file
    rw [Function.comp_apply, append_assoc, ← String.encodeUTF8_append, ← String.ofList_append]
    rfl

theorem plain_after (logger : AuditLogger) (e : Emission)
    : Plain (logger.after e).previousHash.toList :=
  plain_encode _

theorem readEvents_foldl_after (taskId : String) (es : List Emission)
    : (es.foldl after { taskId }).readEvents =
      parseLines 1 (splitlines (content (AuditLogger.events { taskId } es))) := by
  have hfile := file_foldl_after { taskId } es
  rw [readEvents, hfile]
  simp [parseAuditBytes, Bytes.decodeUTF8_encodeUTF8]

variable [JsonText.LawfulFloats]

theorem parseLines_content (logger : AuditLogger) (hnumbered : logger.Numbered es.length)
    (hplain : Plain logger.previousHash.toList) (h : ∀ e ∈ es, e.OneLine logger.taskId) (n : ℕ)
    : parseLines n (splitlines (content (logger.events es))) =
      .ok (annotated n (logger.events es)) := by
  induction es generalizing logger n with
  | nil => rfl
  | cons e es ih =>
    obtain ⟨he, hes⟩ := forall_mem_cons.mp h
    obtain ⟨hfits, hnumbered⟩ := numbered_succ.mp hnumbered
    have hrest := ih _ hnumbered (plain_after logger e) hes (n + 1)
    have hline := parseLines_eventText (wellFormed_event hfits e)
      ((oneLine_iff hfits hplain).mp he) n (content ((logger.after e).events es))
    rw [hrest] at hline
    rw [events, content, flatMap_cons, append_assoc]
    exact hline

theorem parseLines_content_broken (logger : AuditLogger) (hnumbered : logger.Numbered es.length)
    (hplain : Plain logger.previousHash.toList) (h : ¬∀ e ∈ es, e.OneLine logger.taskId) (n : ℕ)
    : ∃ error, parseLines n (splitlines (content (logger.events es))) = .error error := by
  induction es generalizing logger n with
  | nil => simp at h
  | cons e es ih =>
    obtain ⟨hfits, hnumbered⟩ := numbered_succ.mp hnumbered
    rw [events, content, flatMap_cons, append_assoc]
    by_cases he : e.OneLine logger.taskId
    . rw [forall_mem_cons, not_and] at h
      obtain ⟨error, herror⟩ := ih _ hnumbered (plain_after logger e) (h he) (n + 1)
      have hline := parseLines_eventText (wellFormed_event hfits e)
        ((oneLine_iff hfits hplain).mp he) n
        (content ((logger.after e).events es))
      rw [herror] at hline
      exact ⟨error, hline⟩
    . exact parseLines_broken (wellFormed_event hfits e) (mt (oneLine_iff hfits hplain).mpr he) n _

theorem readEvents_of_oneLine {taskId} (hnumbered : Numbered { taskId } es.length)
    (h : ∀ e ∈ es, e.OneLine taskId)
    : (es.foldl after { taskId }).readEvents =
      .ok (annotated 1 (AuditLogger.events { taskId } es)) := by
  rw [readEvents_foldl_after]
  exact parseLines_content _ hnumbered plain_zeroHash h 1

theorem readEvents_broken {taskId} (hnumbered : Numbered { taskId } es.length)
    (h : ¬∀ e ∈ es, e.OneLine taskId)
    : ∃ error, (es.foldl after { taskId }).readEvents = .error error := by
  rw [readEvents_foldl_after]
  exact parseLines_content_broken _ hnumbered plain_zeroHash h 1

end AuditLogger

end Handoff
