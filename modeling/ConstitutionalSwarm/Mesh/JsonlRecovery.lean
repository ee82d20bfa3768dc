import ConstitutionalSwarm.Apcc.CodecAcceptance
import ConstitutionalSwarm.Mesh.Jsonl
import Mathlib.Data.List.DropRight

namespace Mesh.Jsonl

open Raising Lines PyInt List
open PyValue (Dict)
open PyJson (Plain plain_append plain_cons)

variable [Interpreter]

structure Entry where
  record : SettlementRecord
  id : String
  digest : Option String
  id_eq : itemText record.assignment "assignment_id" = .ok id
  digest_eq : normalizeReceiptDigest record.receiptDigest = .ok digest
  payload : Dict
  payload_eq : payloadFromRecord record = .ok payload
  wellFormed : PyJson.WellFormed true (.dict payload)

namespace Entry

def stored (e : Entry) : SettlementRecord :=
  { e.record with receiptDigest := e.digest }

def text (e : Entry) : List Char :=
  payloadText e.payload

def line (e : Entry) : List Char :=
  e.text ++ ['\n']

variable {e : Entry}

theorem recordFromPayload_payload (e : Entry) : recordFromPayload e.payload = .ok e.stored := by
  obtain ⟨_, hdig, hread⟩ := recordFromPayload_payloadFromRecord e.payload_eq
  rw [e.digest_eq, Except.ok.injEq] at hdig
  rw [hread, stored, hdig]

theorem recordId_stored (e : Entry) : SettlementStore.recordId e.stored = e.id := by
  have hid := e.id_eq
  simp only [itemText, PyValue.Dict.item, bind_eq_ok, pure_inj] at hid
  obtain ⟨_, hvalue, htext⟩ := hid
  split at hvalue
  . next v hlook =>
    rw [Except.ok.injEq] at hvalue
    rw [SettlementStore.recordId, getText, stored, hlook]
    rw [← hvalue] at htext
    exact htext
  . cases hvalue

def renamed (e : Entry) (id : String) : Entry where
  record := { e.record with assignment := [("assignment_id", .str id)] }
  id := id
  digest := e.digest
  id_eq := rfl
  digest_eq := e.digest_eq
  payload := ("assignment", .dict [("assignment_id", .str id)]) :: e.payload.tail
  payload_eq := by
    have h := e.payload_eq
    simp only [payloadFromRecord, e.digest_eq, ok_bind, pure_inj] at h ⊢
    rw [← h]
    rfl
  wellFormed := by
    have h := e.payload_eq
    have hwell := e.wellFormed
    simp only [payloadFromRecord, e.digest_eq, ok_bind, pure_inj] at h
    rw [← h] at hwell ⊢
    simp only [PyJson.WellFormed, PyJson.WellFormedFields, List.tail_cons, List.map_cons] at hwell ⊢
    exact ⟨hwell.1, ⟨by simp, trivial, trivial⟩, hwell.2.2⟩

theorem exists_text (e : Entry) : ∃ body, e.text = '\x7b' :: (body ++ ['\x7d']) :=
  PyJson.exists_render_dict _ _

theorem strip_text (e : Entry) : strip e.text = e.text := by
  obtain ⟨_, hbody⟩ := e.exists_text
  simp [hbody, strip, show isSpace '\x7b' = false by decide,
    show isSpace '\x7d' = false by decide]

theorem strip_line (e : Entry) : strip e.line = e.text := by
  obtain ⟨_, hbody⟩ := e.exists_text
  simp [line, hbody, strip, show isSpace '\x7b' = false by decide,
    show isSpace '\x7d' = false by decide, show isSpace '\n' = true by decide]

theorem text_ne_nil (e : Entry) : e.text ≠ [] := by
  obtain ⟨_, hbody⟩ := e.exists_text
  rw [hbody]
  exact cons_ne_nil _ _

variable [JsonText.LawfulFloats]

theorem plain_text (e : Entry) : Plain e.text := by
  unfold text payloadText
  exact PyJson.plain_render rfl JsonText.LawfulFloats.literal _ e.wellFormed

theorem notMem_text (h : ¬PyJson.Printable c) (e : Entry) : c ∉ e.text :=
  fun hmem => h (e.plain_text c hmem)

theorem loads_text_append (e : Entry) (more : List Char)
    : JsonText.reading.loads (String.ofList (e.text ++ more)) =
      if Json.skipSpace more = [] then some (.dict e.payload) else none :=
  PyJson.loads_dict_append (JsonText.reads true) ⟨true, false⟩ e.wellFormed more

theorem loads_text (e : Entry)
    : JsonText.reading.loads (String.ofList e.text) = some (.dict e.payload) := by
  have h := e.loads_text_append []
  rw [append_nil] at h
  exact h

theorem loads_torn (h : e.text = front ++ more) (hmore : more ≠ [])
    : JsonText.reading.loads (String.ofList front) = none :=
  PyJson.loads_torn (JsonText.reads true) ⟨true, false⟩ e.wellFormed h hmore

end Entry

def content (es : List Entry) : List Char :=
  es.flatMap (·.line)

variable {e : Entry} {es : List Entry}

theorem content_concat (es : List Entry) (e : Entry)
    : content (es ++ [e]) = content es ++ e.line := by
  simp [content]

theorem exists_notMem_ids (es : List Entry) : ∃ id : String, id ∉ es.map (·.id) := by
  have hinfinite : Infinite String :=
    Infinite.of_injective String.ofList (fun _ _ h => String.ofList_injective h)
  obtain ⟨id, hid⟩ := hinfinite.exists_notMem_finset (es.map (·.id)).toFinset
  exact ⟨id, fun hmem => hid (mem_toFinset.mpr hmem)⟩

variable [JsonText.LawfulFloats]

theorem loadLines_line (e : Entry) (rest : List (List Char))
    : loadLines (e.line :: rest) = do
      let (records, cut) ← loadLines rest
      return (e.stored :: records, cut) := by
  rw [loadLines, e.strip_line, if_neg e.text_ne_nil, e.loads_text]
  simp only [recordFromValue, e.recordFromPayload_payload, ok_bind]

theorem loadLines_content (es : List Entry) (tail : List Char)
    : loadLines (readlines (content es ++ tail)) = do
      let (records, cut) ← loadLines (readlines tail)
      return (es.map (·.stored) ++ records, cut) := by
  induction es with
  | nil =>
    cases h : loadLines (readlines tail) with
    | error error => exact h
    | ok res => exact h
  | cons e es ih =>
    have hline : content (e :: es) ++ tail = e.text ++ '\n' :: (content es ++ tail) := by
      simp [content, Entry.line]
    have hloads := loadLines_line e (readlines (content es ++ tail))
    rw [Entry.line, ih] at hloads
    rw [hline, readlines_cons_append (e.notMem_text (by decide)), hloads]
    cases loadLines (readlines tail) with
    | error error => rfl
    | ok res => rfl

theorem loadLines_torn (h : e.text = front ++ more) (hfront : front ≠ [])
    (hmore : more ≠ []) : loadLines (readlines front) = .ok ([], some front) := by
  have hnewline : '\n' ∉ front := by
    have hmem := e.notMem_text (c := '\n') (by decide)
    rw [h] at hmem
    exact fun hc => hmem (mem_append_left more hc)
  obtain ⟨_, hbody⟩ := e.exists_text
  obtain ⟨tail, rfl⟩ : ∃ tail, front = '\x7b' :: tail := by
    cases front with
    | nil => exact absurd rfl hfront
    | cons c tail =>
      rw [hbody, cons_append] at h
      exact ⟨tail, by rw [(cons.inj h).1]⟩
  -- spaces at the end of what was written belong to a text, and leave less of the object
  have hstrip : strip ('\x7b' :: tail) = ('\x7b' :: tail).rdropWhile isSpace := by
    simp [strip, rdropWhile, show isSpace '\x7b' = false by decide]
  obtain ⟨spaces, hspaces⟩ := rdropWhile_prefix isSpace (l := '\x7b' :: tail)
  have hloads : JsonText.reading.loads
      (String.ofList (strip ('\x7b' :: tail))) = none := by
    have htext : e.text = strip ('\x7b' :: tail) ++ (spaces ++ more) := by
      rw [hstrip, ← append_assoc, hspaces, h]
    exact Entry.loads_torn htext (by simp [hmore])
  have hne : strip ('\x7b' :: tail) ≠ [] := by
    rw [hstrip]
    intro hnil
    have hspace := rdropWhile_eq_nil_iff.mp hnil '\x7b' (by simp)
    exact absurd hspace (by decide)
  have hlast : ('\x7b' :: tail).getLast? ≠ some '\n' := by
    intro hlast
    exact hnewline (mem_of_getLast? hlast)
  rw [readlines_of_notMem hnewline hfront, loadLines, if_neg hne, hloads]
  simp [hlast]

theorem loadLines_text (e : Entry)
    : loadLines (readlines e.text) = .ok ([e.stored], none) := by
  rw [readlines_of_notMem (e.notMem_text (by decide)) e.text_ne_nil, loadLines, e.strip_text,
    if_neg e.text_ne_nil, e.loads_text]
  simp only [recordFromValue, e.recordFromPayload_payload, ok_bind]
  rfl

theorem loadLines_joined (e e' : Entry)
    : loadLines (readlines (e.text ++ e'.line)) = .error jsonDecodeError := by
  have hnewline : '\n' ∉ e.text ++ e'.text := by
    simp [e.notMem_text (c := '\n') (by decide), e'.notMem_text (c := '\n') (by decide)]
  obtain ⟨_, hbody⟩ := e.exists_text
  obtain ⟨_, hbody'⟩ := e'.exists_text
  have hstrip : strip (e.text ++ e'.line) = e.text ++ e'.text := by
    simp [Entry.line, hbody, hbody', strip, show isSpace '\x7b' = false by decide,
      show isSpace '\x7d' = false by decide, show isSpace '\n' = true by decide]
  have hloads := e.loads_text_append e'.text
  rw [if_neg (by simp [hbody', Json.skipSpace, Json.isSpace])] at hloads
  have hlines : readlines (e.text ++ e'.line) = [e.text ++ e'.line] := by
    have h := readlines_cons_append hnewline []
    simpa [Entry.line, readlines] using h
  rw [hlines, loadLines, hstrip, if_neg (by simp [e.text_ne_nil]), hloads]
  simp [Entry.line]

def encoded (cs : List Char) : Bytes :=
  (String.ofList cs).encodeUTF8

omit [Interpreter] [JsonText.LawfulFloats] in
theorem encoded_append (cs ds : List Char) : encoded (cs ++ ds) = encoded cs ++ encoded ds := by
  rw [encoded, String.ofList_append, String.encodeUTF8_append]
  rfl

omit [Interpreter] [JsonText.LawfulFloats] in
theorem encoded_injective : Function.Injective encoded :=
  fun _ _ h => String.ofList_injective (String.encodeUTF8_injective h)

omit [Interpreter] [JsonText.LawfulFloats] in
theorem exists_of_encoded_eq_append (hcs : ∀ c ∈ cs, c.toNat < 128) (h : encoded cs = front ++ back)
    : ∃ ds es, cs = ds ++ es ∧ front = encoded ds ∧ back = encoded es := by
  have hlen : ∀ {cs : List Char}, (∀ c ∈ cs, c.toNat < 128) → (encoded cs).length = cs.length :=
    fun h => Apcc.length_encodeUTF8_ofList h
  have htake : ∀ c ∈ cs.take front.length, c.toNat < 128 :=
    fun c hc => hcs c (mem_of_mem_take hc)
  have hle : front.length ≤ cs.length := by
    rw [← hlen hcs, h, length_append]
    exact Nat.le_add_right _ _
  refine ⟨cs.take front.length, cs.drop front.length, (take_append_drop _ _).symm, ?_⟩
  rw [← take_append_drop front.length cs, encoded_append] at h
  have hsplit := append_inj h (by rw [hlen htake, length_take, min_eq_left hle])
  exact ⟨hsplit.1.symm, hsplit.2.symm⟩

theorem ascii_line (e : Entry) : ∀ c ∈ e.line, c.toNat < 128 := by
  intro c hc
  rw [Entry.line, mem_append, mem_singleton] at hc
  rcases hc with hc | rfl
  . exact Nat.lt_of_le_of_lt (e.plain_text c hc).2 (by decide)
  . decide

theorem cr_notMem_content (es : List Entry) : '\r' ∉ content es := by
  intro hmem
  obtain ⟨e, -, he⟩ := mem_flatMap.mp hmem
  rw [Entry.line, mem_append, mem_singleton] at he
  rcases he with he | he
  . exact e.notMem_text (by decide) he
  . exact absurd he (by decide)

namespace Store

variable {store : Store}

def bytes (store : Store) : Bytes :=
  (store.file.map (·.bytes)).getD []

omit [Interpreter] [JsonText.LawfulFloats] in
theorem fileSignature_snd (store : Store) : store.fileSignature.2 = store.bytes.length := by
  unfold fileSignature bytes
  cases store.file with
  | none => rfl
  | some file => rfl

def cut (store : Store) (stamp : ℕ) (rawLine : List Char) : Store :=
  { store with
    file := some ⟨store.bytes.take (store.bytes.length - (encoded rawLine).length), stamp⟩ }

variable {tail : List Char}

omit [Interpreter] [JsonText.LawfulFloats] in
theorem lines_eq {file cs} (h : file.bytes = encoded cs) (hcs : '\r' ∉ cs)
    : lines file = .ok (readlines cs) := by
  rw [lines.eq_def, h, encoded, Bytes.decodeUTF8_encodeUTF8]
  simp [universal_of_notMem hcs]

theorem loadAll_eq {records last} (h : store.bytes = encoded (content es ++ tail))
    (htail : '\r' ∉ tail) (hlines : loadLines (readlines tail) = .ok (records, last)) (stamp : ℕ)
    : store.loadAll stamp =
      .ok (es.map (·.stored) ++ records, last.elim store (store.cut stamp)) := by
  cases hfile : store.file with
  | none =>
    -- no file is an empty log
    have hnil : content es ++ tail = [] := by
      apply encoded_injective
      rw [← h, bytes, hfile]
      rfl
    obtain ⟨hes, rfl⟩ := append_eq_nil_iff.mp hnil
    have hentries : es = [] := by
      cases es with
      | nil => rfl
      | cons e es => simp [content, Entry.line] at hes
    rw [show readlines [] = [] from rfl, loadLines, Except.ok.injEq, Prod.mk.injEq] at hlines
    rw [loadAll, hfile, hentries, ← hlines.1, ← hlines.2]
    rfl
  | some file =>
    have hbytes : store.bytes = file.bytes := by rw [bytes, hfile]; rfl
    have hcr : '\r' ∉ content es ++ tail := by
      rw [mem_append, not_or]
      exact ⟨cr_notMem_content es, htail⟩
    rw [loadAll, hfile]
    simp only [lines_eq (hbytes.symm.trans h) hcr, ok_bind, loadLines_content, hlines]
    cases last with
    | none => rfl
    | some rawLine =>
      rw [Option.elim_some, cut, hbytes]
      rfl

def Torn (tail : List Char) : Prop :=
  tail = [] ∨ tail ≠ [] ∧ ∃ (e : Entry) (more : List Char), e.text = tail ++ more ∧ more ≠ []

def Remembers (es : List Entry) (index : Option Index) : Prop :=
  ∀ i ∈ index, ∃ known, known <+: es ∧ i.assignmentIds ⊆ known.map (·.id) ∧
    i.signature.2 = (encoded (content known)).length

structure Logs (es : List Entry) (tail : List Char) (store : Store) : Prop where
  bytes_eq : store.bytes = encoded (content es ++ tail)
  remembers : Remembers es store.index

theorem Logs.loadAll (h : Logs es tail store) (htail : Torn tail) (stamp : ℕ)
    : ∃ store', store.loadAll stamp = .ok (es.map (·.stored), store') ∧ Logs es [] store' := by
  rcases htail with rfl | ⟨hne, e, more, htext, hmore⟩
  . refine ⟨store, ?_, h⟩
    rw [loadAll_eq h.bytes_eq (not_mem_nil) rfl stamp, append_nil]
    rfl
  . have hcr : '\r' ∉ tail := by
      have hmem := e.notMem_text (c := '\r') (by decide)
      rw [htext] at hmem
      exact fun hc => hmem (mem_append_left more hc)
    refine ⟨store.cut stamp tail, ?_, ?_, h.remembers⟩
    . rw [loadAll_eq h.bytes_eq hcr (loadLines_torn htext hne hmore) stamp, append_nil]
      rfl
    . rw [cut, h.bytes_eq, encoded_append, append_nil]
      simp [bytes]

omit [JsonText.LawfulFloats] in
theorem Logs.rememberIndex (h : Logs es [] store)
    (hids : ids ⊆ es.map (·.id)) : Logs es [] (store.rememberIndex ids) := by
  refine ⟨h.bytes_eq, ?_⟩
  rintro i ⟨⟩
  refine ⟨es, prefix_refl es, hids, ?_⟩
  rw [fileSignature_snd, h.bytes_eq, append_nil]

theorem Logs.knownAssignmentIds (h : Logs es tail store) (htail : Torn tail) (stamp : ℕ)
    : ∃ ids store', store.knownAssignmentIds stamp = .ok (ids, store') ∧
      ids ⊆ es.map (·.id) ∧ Logs es [] store' := by
  unfold Store.knownAssignmentIds
  split
  . next i hi =>
    obtain ⟨hmem, hsig⟩ := Option.filter_eq_some_iff.mp hi
    obtain ⟨known, ⟨later, rfl⟩, hids, hsize⟩ := h.remembers i hmem
    refine ⟨i.assignmentIds, store, rfl, ?_, ?_, h.remembers⟩
    . rw [map_append]
      exact List.Subset.trans hids (subset_append_left _ _)
    -- the sizes agree, so nothing comes after the lines that are remembered
    . have hlen := congrArg (fun s : Signature => s.2) (of_decide_eq_true hsig)
      simp only [fileSignature_snd, hsize, h.bytes_eq, content, flatMap_append, encoded_append,
        length_append] at hlen
      have hnil : encoded tail = [] := length_eq_zero_iff.mp (by omega)
      have htail : tail = [] := encoded_injective hnil
      rw [h.bytes_eq, htail]
  . next hi =>
    obtain ⟨store', hload, hlogs⟩ := h.loadAll htail stamp
    rw [hload]
    refine ⟨_, _, rfl, ?_, hlogs.rememberIndex ?_⟩
    all_goals
      intro id hid
      obtain ⟨_, hr, rfl⟩ := mem_map.mp (mem_filter.mp hid).1
      obtain ⟨e, he, rfl⟩ := mem_map.mp hr
      rw [e.recordId_stored]
      exact mem_map_of_mem he

theorem Logs.prepare_eq_ok (h : Logs es tail store) (htail : Torn tail)
    (hprepare : store.prepare e.record stamp = .ok res)
    : ∃ ids store', res = (e.id, ids, e.payload, store') ∧ ids ⊆ es.map (·.id) ∧
      Logs es [] store' := by
  obtain ⟨ids, store', hknown, hids, hlogs⟩ := h.knownAssignmentIds htail stamp
  simp only [prepare, e.id_eq, hknown, e.payload_eq, ok_bind, bind_eq_ok, exists_unit,
    raiseIf_eq_ok, pure_inj] at hprepare
  exact ⟨ids, store', hprepare.2.symm, hids, hlogs⟩

theorem Logs.exists_prepare (h : Logs es tail store) (htail : Torn tail)
    (hid : e.id ∉ es.map (·.id)) (stamp : ℕ)
    : ∃ result, store.prepare e.record stamp = .ok result := by
  obtain ⟨ids, store', hknown, hids, -⟩ := h.knownAssignmentIds htail stamp
  have hnew : decide (e.id ∈ ids) = false := decide_eq_false (fun hmem => hid (hids hmem))
  refine ⟨(e.id, ids, e.payload, store'), ?_⟩
  simp only [prepare, e.id_eq, hknown, e.payload_eq, ok_bind, hnew]
  rfl

omit [JsonText.LawfulFloats] in
theorem Logs.write {bytes} (h : Logs es [] store) (stamp : ℕ)
    : (store.write bytes stamp).bytes = encoded (content es) ++ bytes := by
  have hbytes := h.bytes_eq
  rw [append_nil] at hbytes
  rw [← hbytes]
  rfl

theorem Logs.append (h : Logs es tail store)
    (htail : Torn tail) (happ : store.append e.record truncated written = .ok store')
    : Logs (es ++ [e]) [] store' := by
  simp only [Store.append, bind_eq_ok, pure_inj] at happ
  obtain ⟨_, hprepare, rfl⟩ := happ
  obtain ⟨_, store', rfl, hids, hlogs⟩ := h.prepare_eq_ok htail hprepare
  have hbytes : (store'.write (lineBytes e.payload) written).bytes =
      encoded (content (es ++ [e])) := by
    rw [hlogs.write, content_concat, encoded_append]
    rfl
  refine ⟨by rw [append_nil]; exact hbytes, ?_⟩
  rintro i ⟨⟩
  refine ⟨es ++ [e], prefix_refl _, ?_, ?_⟩
  . rw [map_append]
    exact append_subset.mpr ⟨List.Subset.trans hids (subset_append_left _ _),
      subset_append_right _ _⟩
  . rw [fileSignature_snd, hbytes]

omit [JsonText.LawfulFloats] in
theorem append_file (hload : store.loadAll truncated = .ok (records, store))
    (happ : store.append e.record truncated written = .ok store')
    : ∃ file, store'.file = some file ∧ file.bytes = store.bytes ++ encoded e.line := by
  simp only [Store.append, prepare, e.id_eq, e.payload_eq, ok_bind, bind_eq_ok, pure_eq_ok,
    exists_unit, raiseIf_eq_ok, Except.ok.injEq] at happ
  obtain ⟨result, ⟨⟨ids, known⟩, hknown, -, rfl⟩, rfl⟩ := happ
  have hfile : known.file = store.file := by
    unfold knownAssignmentIds at hknown
    split at hknown
    . cases hknown
      rfl
    . rw [hload] at hknown
      cases hknown
      rfl
  refine ⟨_, rfl, ?_⟩
  rw [bytes, ← hfile]
  rfl

theorem Logs.exists_append (h : Logs es tail store) (htail : Torn tail) (hid : e.id ∉ es.map (·.id))
    (truncated written : ℕ)
    : ∃ store', store.append e.record truncated written = .ok store' := by
  obtain ⟨_, hprepare⟩ := h.exists_prepare htail hid truncated
  rw [Store.append, hprepare]
  exact ⟨_, rfl⟩

end Store

inductive Written : List Entry → Store → Prop
  | empty : Written [] Store.empty
  | append {es : List Entry} {e : Entry} {store store' : Store} {truncated written : ℕ}
      (hes : Written es store) (h : store.append e.record truncated written = .ok store')
      : Written (es ++ [e]) store'
  | restart {es : List Entry} {store : Store} (hes : Written es store)
      : Written es { store with index := none }

variable {store : Store}

omit [JsonText.LawfulFloats] in
theorem Store.Logs.restart {tail} (h : store.Logs es tail)
    : Store.Logs es tail { store with index := none } := by
  refine ⟨h.bytes_eq, ?_⟩
  rintro i ⟨⟩

theorem Written.logs (h : Written es store) : store.Logs es [] := by
  induction h with
  | empty =>
    refine ⟨rfl, ?_⟩
    rintro i ⟨⟩
  | append hes h ih => exact ih.append (.inl rfl) h
  | restart hes ih => exact ih.restart

inductive Call where
  | loadAll (stamp : ℕ)
  | append (entry : Entry) (truncated written : ℕ)
  | restart

def Fresh : List Entry → List Call → Prop
  | _, [] => True
  | es, .loadAll _ :: calls => Fresh es calls
  | es, .append e _ _ :: calls => e.id ∉ es.map (·.id) ∧ Fresh (es ++ [e]) calls
  | es, .restart :: calls => Fresh es calls

def Follows : Store → List Entry → List Call → Prop
  | _, _, [] => True
  | store, es, .loadAll stamp :: calls =>
    ∃ store', store.loadAll stamp = .ok (es.map (·.stored), store') ∧ Follows store' es calls
  | store, es, .append e truncated written :: calls =>
    ∃ store', store.append e.record truncated written = .ok store' ∧
      Follows store' (es ++ [e]) calls
  | store, es, .restart :: calls => Follows { store with index := none } es calls

theorem Store.Logs.follows {tail} (h : store.Logs es tail)
    (htail : Store.Torn tail) (hfresh : Fresh es calls)
    : Follows store es calls := by
  induction calls generalizing es tail store with
  | nil => trivial
  | cons call calls ih =>
    cases call with
    | loadAll stamp =>
      obtain ⟨store', hload, hlogs⟩ := h.loadAll htail stamp
      exact ⟨store', hload, ih hlogs (.inl rfl) hfresh⟩
    | append e truncated written =>
      obtain ⟨store', happ⟩ := h.exists_append htail hfresh.1 truncated written
      exact ⟨store', happ, ih (h.append htail happ) (.inl rfl) hfresh.2⟩
    | restart => exact ih h.restart htail hfresh

def recovered (es : List Entry) (torn : Entry) (front : Bytes) : List Entry :=
  if encoded torn.text <+: front then es ++ [torn] else es

theorem Store.loadAll_joined {store' : Store} {e' : Entry} {truncated written : ℕ}
    (hbytes : store.bytes = encoded (content es ++ e.text))
    (happ : store.append e'.record truncated written = .ok store') (stamp : ℕ)
    : store'.loadAll stamp = .error jsonDecodeError := by
  have hcr : '\r' ∉ e.text := e.notMem_text (by decide)
  have hloaded := Store.loadAll_eq hbytes hcr (loadLines_text e) truncated
  obtain ⟨file, hfile, hjoined⟩ := Store.append_file hloaded happ
  have hcr' : '\r' ∉ content es ++ (e.text ++ e'.line) := by
    simp [cr_notMem_content, hcr, Entry.line, e'.notMem_text (c := '\r') (by decide)]
  have hfront : file.bytes = encoded (content es ++ (e.text ++ e'.line)) := by
    rw [hjoined, hbytes, ← encoded_append, append_assoc]
  rw [Store.loadAll, hfile]
  simp only [Store.lines_eq hfront hcr', ok_bind, loadLines_content, loadLines_joined]
  rfl

theorem Store.crash_bytes
    (h : store.Logs es []) (hcrash : store.crash e.record truncated written front = .ok crashed)
    : crashed.bytes = encoded (content es) ++ front := by
  simp only [Store.crash, bind_eq_ok, pure_inj] at hcrash
  obtain ⟨_, hprepare, rfl⟩ := hcrash
  obtain ⟨_, _, rfl, -, hlogs⟩ := h.prepare_eq_ok (.inl rfl) hprepare
  exact hlogs.write written

/--
A crash in an append does the log no damage exactly when it does not fall between the object and its
newline: every load and append of other assignments after it succeeds, and every load returns the
earlier records, the torn one if its object was written, and those appended since.
-/
theorem torn_append_recovers_iff {store crashed : Store} {torn : Entry} {front back : Bytes}
    {truncated written : ℕ} {index : Option Index} (hwritten : Written es store)
    (hcrash : store.crash torn.record truncated written front = .ok crashed)
    (hfront : Store.lineBytes torn.payload = front ++ back) (hindex : Store.Remembers es index)
    : (∀ calls, Fresh (recovered es torn front) calls →
        Follows { crashed with index := index } (recovered es torn front) calls) ↔
      front ≠ encoded torn.text := by
  have hbytes : Store.bytes { crashed with index := index } = encoded (content es) ++ front :=
    (Store.crash_bytes hwritten.logs hcrash : crashed.bytes = _)
  constructor
  . rintro hfollows rfl
    rw [recovered, if_pos (prefix_refl _)] at hfollows
    obtain ⟨id, hid⟩ := exists_notMem_ids (es ++ [torn])
    rw [← encoded_append] at hbytes
    have hfresh : Fresh (es ++ [torn]) [.append (torn.renamed id) 0 0, .loadAll 0] := ⟨hid, trivial⟩
    obtain ⟨_, happ, store'', hload, -⟩ := hfollows _ hfresh
    rw [Store.loadAll_joined hbytes happ] at hload
    cases hload
  . intro hne calls hfresh
    obtain ⟨ds, rest, hline, rfl, -⟩ := exists_of_encoded_eq_append (ascii_line torn) hfront
    rw [← encoded_append] at hbytes
    rcases eq_nil_or_concat rest with rfl | ⟨more, c, rfl⟩
    -- the whole line was written
    . rw [append_nil] at hline
      have hprefix : encoded torn.text <+: encoded ds := by
        rw [← hline, Entry.line, encoded_append]
        exact prefix_append _ _
      rw [recovered, if_pos hprefix] at hfresh ⊢
      refine Store.Logs.follows ⟨?_, ?_⟩ (.inl rfl) hfresh
      . rw [append_nil, content_concat, hline]
        exact hbytes
      . intro i hi
        obtain ⟨known, hknown, hids, hsize⟩ := hindex i hi
        exact ⟨known, hknown.trans (prefix_append _ _), hids, hsize⟩
    -- the object was not
    . have htext : torn.text = ds ++ more := by
        rw [Entry.line, concat_eq_append, ← append_assoc] at hline
        exact (append_inj' hline rfl).1
      have hmore : more ≠ [] := by
        rintro rfl
        rw [append_nil] at htext
        exact hne (congrArg encoded htext.symm)
      have hprefix : ¬encoded torn.text <+: encoded ds := by
        intro hprefix
        have hlen := hprefix.length_le
        rw [htext, encoded_append, length_append] at hlen
        have hnil : encoded more = [] := length_eq_zero_iff.mp (by omega)
        exact hmore (encoded_injective hnil)
      rw [recovered, if_neg hprefix] at hfresh ⊢
      refine Store.Logs.follows ⟨hbytes, hindex⟩ ?_ hfresh
      by_cases hds : ds = []
      . exact .inl hds
      . exact .inr ⟨hds, torn, more, htext, hmore⟩

end Mesh.Jsonl

namespace Mesh.Jsonl.Sample

open scoped JsonText.Sample

def entry (id : String) : Entry where
  record := ⟨[("assignment_id", .str id)], [], .str "", 1, false, none, []⟩
  id := id
  digest := none
  id_eq := rfl
  digest_eq := rfl
  payload := _
  payload_eq := rfl
  wellFormed := by
    simp [PyJson.WellFormed, PyJson.WellFormedFields, PyJson.WellFormedElems, optionalText,
      show PyInt.fits 1 = true by decide]

theorem exists_crash_empty (id : String) (front : Bytes)
    : ∃ index, Store.empty.crash (entry id).record 0 0 front = .ok ⟨some ⟨front, 0⟩, index⟩ :=
  ⟨_, rfl⟩

/-- The process stops before the newline: the next append succeeds, and the log is not readable. -/
theorem crash_before_newline
    : ∃ crashed appended,
      Store.empty.crash (entry "a").record 0 0 (encoded (entry "a").text) = .ok crashed ∧
      Store.append { crashed with index := none } (entry "b").record 0 0 = .ok appended ∧
      appended.loadAll 0 = .error jsonDecodeError := by
  have hbytes : Store.bytes ⟨some ⟨encoded (entry "a").text, 0⟩, none⟩ =
      encoded (content [] ++ (entry "a").text) := by
    simp [Store.bytes, content]
  have hcr : '\r' ∉ (entry "a").text := Entry.notMem_text (by decide) _
  have hload := Store.loadAll_eq hbytes hcr (loadLines_text _) 0
  obtain ⟨appended, happ⟩ : ∃ appended, Store.append ⟨some ⟨encoded (entry "a").text, 0⟩, none⟩
      (entry "b").record 0 0 = .ok appended := by
    simp only [Store.append, Store.prepare, Store.knownAssignmentIds, Option.filter_none, hload]
    exact ⟨_, rfl⟩
  obtain ⟨index, hcrash⟩ := exists_crash_empty "a" (encoded (entry "a").text)
  exact ⟨_, appended, hcrash, happ, Store.loadAll_joined hbytes happ 0⟩

theorem torn_append_recovers_iff_first
    : ∃ front crashed, front = (Store.lineBytes (entry "a").payload).take 1 ∧
      Store.empty.crash (entry "a").record 0 0 front = .ok crashed ∧
      ((∀ calls, Fresh (recovered [] (entry "a") front) calls →
        Follows { crashed with index := none } (recovered [] (entry "a") front) calls) ↔
      front ≠ encoded (entry "a").text) := by
  have hindex : Store.Remembers [] none := by
    rintro i ⟨⟩
  obtain ⟨index, hcrash⟩ := exists_crash_empty "a" ((Store.lineBytes (entry "a").payload).take 1)
  exact ⟨_, _, rfl, hcrash, torn_append_recovers_iff Written.empty hcrash
    (List.take_append_drop 1 _).symm hindex⟩

end Mesh.Jsonl.Sample
