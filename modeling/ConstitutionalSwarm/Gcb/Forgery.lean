import ConstitutionalSwarm.Data.Lockstep
import ConstitutionalSwarm.Gcb.ControlRuns

namespace Gcb

open Apcc (Py)
open Except (Lockstep)

variable [Platform] {b : Boundary} {s s' : Store} {call : Call} {decision : ControlDecision}

def after (b : Boundary) (s : Store) (call : Call) : Store :=
  match applyControlCommand b s call with
  | .ok answer => answer.2
  | .error _ => s

def final (b : Boundary) (s : Store) (calls : List Call) : Store :=
  calls.foldl (after b) s

def answers (b : Boundary) : Store → List Call → List (Call × Py ControlDecision)
  | _, [] => []
  | s, call :: calls =>
    (call, (applyControlCommand b s call).map Prod.fst) :: answers b (after b s call) calls

def Call.authentic (call : Call) (key : Bytes) : Bool :=
  call.command.verifies key

def authenticAnswers (b : Boundary) (key : Bytes) (s : Store) (calls : List Call)
    : List (Call × Py ControlDecision) :=
  (answers b s calls).filter (·.1.authentic key)

abbrev Marked := List (Bool × Call)

def Marked.all (calls : Marked) : List Call :=
  calls.map Prod.snd

def Marked.genuine (calls : Marked) : List Call :=
  (calls.filter (!·.1)).map Prod.snd

def authenticIds (key : Bytes) (calls : Marked) (commandId : String) : Prop :=
  ∃ call ∈ calls, call.2.authentic key = true ∧ call.2.command.commandId = commandId

/-- Where the ledger takes up a forged command, no authentic one comes later under its id. -/
def Unclaimed (b : Boundary) (key : Bytes) : Store → Marked → Prop
  | _, [] => True
  | s, (mark, call) :: calls =>
    (mark = true → call.recordable = true → s.controlEvent? call.command.commandId = none →
      ¬authenticIds key calls call.command.commandId) ∧
    Unclaimed b key (after b s call) calls

variable {command : ControlCommand} {ids : String → Prop} {commandId : String} {key : Bytes}
  {calls : Marked}

theorem verifies_of_validate (h : validateControlCommand command storeSeal now = none)
    : command.verifies storeSeal.adminPublicKey := by
  simp only [validateControlCommand] at h
  split_ifs at h with _ _ _ _ _ hverif
  simpa using hverif

def Untouched (s : Store) (call : Call) (commandId : String) : Prop :=
  commandId = call.command.commandId → call.recordable = true →
    (s.controlEvent? commandId).isSome = true

theorem Answered.of_forged (h : Answered s call decision s')
    (hforged : call.authentic s.storeSeal.adminPublicKey = false)
    : s'.storeSeal = s.storeSeal ∧ s'.tables = s.tables ∧
      ∀ commandId, Untouched s call commandId →
        s'.controlEvent? commandId = s.controlEvent? commandId := by
  cases h with
  | failed | replayed | collided => exact ⟨rfl, rfl, fun _ _ => rfl⟩
  | denied reason events hrecordable hnew hled =>
    refine ⟨rfl, rfl, fun commandId huntouched => ?_⟩
    rw [controlEvent?_of_insert hled rfl]
    by_cases hid : commandId = call.command.commandId
    . subst hid
      simp [hnew, Untouched, hrecordable] at huntouched
    . simp [controlRow, Ne.symm hid]
  | committed hnew hvalid hled =>
    rw [Call.authentic, verifies_of_validate hvalid] at hforged
    exact absurd hforged (by decide)

structure Agree (ids : String → Prop) (s s' : Store) : Prop where
  storeSeal : s.storeSeal = s'.storeSeal
  tables : s.tables = s'.tables
  records : ∀ commandId, ids commandId → s.controlEvent? commandId = s'.controlEvent? commandId

omit [Platform] in
theorem Agree.mono {ids' : String → Prop} (h : Agree ids s s')
    (hids : ∀ commandId, ids' commandId → ids commandId) : Agree ids' s s' :=
  ⟨h.storeSeal, h.tables, fun commandId hid => h.records commandId (hids commandId hid)⟩

def AgreeAnswers (ids : String → Prop) (p q : ControlDecision × Store) : Prop :=
  p.1 = q.1 ∧ Agree ids p.2 q.2

omit [Platform] in
theorem exists_insert_of_new (row : ControlEventRow) (hnew : s.controlEvent? row.commandId = none)
    : ∃ ledger, s.controlEvents.insert? row = some ledger := by
  refine Table.insert?_isSome rfl fun r hr => ?_
  rw [Store.controlEvent?, Table.find?, List.find?_eq_none] at hnew
  exact decide_eq_true (by simpa using hnew r hr)

section New

variable (h : Agree ids s s') (hid : ids command.commandId)
  (hnew : s.controlEvent? command.commandId = none)

include h hid hnew

theorem recordControl_lockstep
    : Lockstep (Agree ids) (recordControl s command outcome reason ver res)
        (recordControl s' command outcome reason ver res) := by
  refine .bind_same fun _ => .bind_same fun _ => ?_
  -- the id is new in both ledgers, so both take the row
  obtain ⟨_, hled⟩ := exists_insert_of_new
    (controlRow command outcome reason ver res) hnew
  obtain ⟨_, hled'⟩ := exists_insert_of_new
    (controlRow command outcome reason ver res) (h.records _ hid ▸ hnew)
  rw [Apcc.insert_eq_ok.mpr hled, Apcc.insert_eq_ok.mpr hled']
  refine .ok ⟨h.storeSeal, h.tables, fun commandId hcommand => ?_⟩
  refine (controlEvent?_of_insert hled rfl commandId).trans ?_
  rw [h.records commandId hcommand]
  exact (controlEvent?_of_insert hled' rfl commandId).symm

theorem denyControl_lockstep
    : Lockstep (AgreeAnswers ids) (denyControl s command reason)
        (denyControl s' command reason) := by
  simp only [denyControl, ← h.storeSeal]
  exact (recordControl_lockstep h hid hnew).bind fun u u' hu => .ok ⟨rfl, hu⟩

theorem transitionControl_lockstep
    : Lockstep (AgreeAnswers ids) (transitionControl b s command)
        (transitionControl b s' command) := by
  simp only [transitionControl, ← h.tables, ← h.storeSeal]
  split
  . next res tables haction =>
    refine .bind_same fun ver => ?_
    have hwritten : Agree ids
        { s with tables, storeSeal := { s.storeSeal with controlVersion := ver } }
        { s' with tables, storeSeal := { s.storeSeal with controlVersion := ver } } :=
      ⟨rfl, rfl, h.records⟩
    exact (recordControl_lockstep hwritten hid hnew).bind fun u u' hu => .ok ⟨rfl, hu⟩
  . split
    . refine (denyControl_lockstep h hid hnew).bind fun p q hpq => ?_
      obtain ⟨heq, hagree⟩ := hpq
      exact .ok ⟨heq, hagree.storeSeal, hagree.tables, hagree.records⟩
    . exact .error _

end New

theorem answerControl_lockstep (now : Int) (h : Agree ids s s') (hid : ids command.commandId)
    : Lockstep (AgreeAnswers ids) (answerControl b s command now)
        (answerControl b s' command now) := by
  simp only [answerControl, ← h.records _ hid, ← h.storeSeal]
  split
  . refine .ok ?_
    unfold answerRecorded
    split
    . exact ⟨rfl, h.storeSeal, h.tables, h.records⟩
    . exact ⟨rfl, h⟩
  . next hnew =>
    split
    . exact denyControl_lockstep h hid hnew
    . exact transitionControl_lockstep h hid hnew

theorem applyControlCommand_lockstep (h : Agree ids s s') (hid : ids call.command.commandId)
    : Lockstep (AgreeAnswers ids) (applyControlCommand b s call)
        (applyControlCommand b s' call) := by
  have htx : Lockstep (AgreeAnswers ids) (controlTransaction b s call)
      (controlTransaction b s' call) := by
    refine .bind_same fun _ => (answerControl_lockstep call.now h hid).bind fun p q hpq => ?_
    rw [h.tables, hpq.2.tables]
    exact .bind_same fun _ => .ok hpq
  unfold applyControlCommand
  generalize controlTransaction b s call = x at htx ⊢
  generalize controlTransaction b s' call = y at htx ⊢
  cases htx with
  | ok hpq => exact .ok hpq
  | error e =>
    dsimp only
    split
    . exact .ok ⟨rfl, h⟩
    . exact .error e

theorem after_lockstep (h : Agree ids s s') (hid : ids call.command.commandId)
    : (applyControlCommand b s call).map Prod.fst = (applyControlCommand b s' call).map Prod.fst ∧
        Agree ids (after b s call) (after b s' call) := by
  have hlockstep := applyControlCommand_lockstep (b := b) h hid
  unfold after
  generalize applyControlCommand b s call = x at hlockstep ⊢
  generalize applyControlCommand b s' call = y at hlockstep ⊢
  cases hlockstep with
  | ok hpq => exact ⟨congrArg Except.ok hpq.1, hpq.2⟩
  | error e => exact ⟨rfl, h⟩

theorem after_cases (b : Boundary) (s : Store) (call : Call)
    : (∃ decision, Answered s call decision (after b s call)) ∨ after b s call = s := by
  cases happly : applyControlCommand b s call with
  | ok answer =>
    refine .inl ⟨answer.1, ?_⟩
    have h := answered_of_applyControlCommand happly
    simpa only [after, happly] using h
  | error e => exact .inr (by simp only [after, happly])

theorem adminPublicKey_after
    : (after b s call).storeSeal.adminPublicKey = s.storeSeal.adminPublicKey := by
  rcases after_cases b s call with ⟨decision, hanswered⟩ | hsame
  . generalize after b s call = u at hanswered
    cases hanswered <;> rfl
  . rw [hsame]

theorem after_forged (hforged : call.authentic s.storeSeal.adminPublicKey = false)
    : (after b s call).storeSeal = s.storeSeal ∧ (after b s call).tables = s.tables ∧
      ∀ commandId, Untouched s call commandId →
        (after b s call).controlEvent? commandId = s.controlEvent? commandId := by
  rcases after_cases b s call with ⟨decision, hanswered⟩ | hsame
  . exact hanswered.of_forged hforged
  . rw [hsame]
    exact ⟨rfl, rfl, fun _ _ => rfl⟩

theorem Agree.after_left (h : Agree ids s s')
    (hforged : call.authentic s.storeSeal.adminPublicKey = false)
    (huntouched : ∀ commandId, ids commandId → Untouched s call commandId)
    : Agree ids (after b s call) s' := by
  obtain ⟨hseal, htables, hrecords⟩ := after_forged (b := b) hforged
  refine ⟨hseal.trans h.storeSeal, htables.trans h.tables, fun commandId hid => ?_⟩
  rw [hrecords commandId (huntouched commandId hid), h.records commandId hid]

omit [Platform] in
theorem Agree.symm (h : Agree ids s s') : Agree ids s' s :=
  ⟨h.storeSeal.symm, h.tables.symm, fun commandId hid => (h.records commandId hid).symm⟩

theorem authenticIds_cons (call : Bool × Call) (h : authenticIds key calls commandId)
    : authenticIds key (call :: calls) commandId := by
  obtain ⟨c, hc, hauthn⟩ := h
  exact ⟨c, List.mem_cons_of_mem _ hc, hauthn⟩

theorem authenticAnswers_cons {calls}
    : authenticAnswers b key s (call :: calls) =
      (if call.authentic key then [(call, (applyControlCommand b s call).map Prod.fst)] else []) ++
        authenticAnswers b key (after b s call) calls := by
  rw [authenticAnswers, answers, List.filter_cons]
  split <;> rfl

theorem Agree.after_both (h : Agree (authenticIds key ((mark, call) :: calls)) s s')
    (hkey : s.storeSeal.adminPublicKey = key)
    : Agree (authenticIds key calls) (after b s call) (after b s' call) ∧
      (call.authentic key = true →
        (applyControlCommand b s call).map Prod.fst
          =
        (applyControlCommand b s' call).map Prod.fst) := by
  by_cases hid : authenticIds key ((mark, call) :: calls) call.command.commandId
  . obtain ⟨hans, hagree⟩ := after_lockstep (b := b) h hid
    exact ⟨hagree.mono fun _ => authenticIds_cons _, fun _ => hans⟩
  . -- no authentic call is left under this id, so this one is forged and in nobody's way
    have hforged : call.authentic key = false := by
      by_contra hauthn
      exact hid ⟨_, List.mem_cons_self, Bool.eq_true_of_not_eq_false hauthn, rfl⟩
    have huntouched (u : Store) (commandId : String) (hcommand : authenticIds key calls commandId)
        : Untouched u call commandId := by
      rintro rfl
      exact absurd (authenticIds_cons _ hcommand) hid
    have hleft := (h.mono fun _ => authenticIds_cons (mark, call)).after_left (b := b)
      (hkey ▸ hforged) (huntouched s)
    have hright := hleft.symm.after_left (b := b)
      (by rw [← h.storeSeal, hkey]; exact hforged) (huntouched s')
    exact ⟨hright.symm, fun hauthn => absurd hauthn (by simp [hforged])⟩

theorem runs_agree (calls : Marked) (h : Agree (authenticIds key calls) s s')
    (hkey : s.storeSeal.adminPublicKey = key)
    (hforged : ∀ call ∈ calls, call.1 = true → call.2.authentic key = false)
    (hunclaimed : Unclaimed b key s calls)
    : authenticAnswers b key s calls.all = authenticAnswers b key s' calls.genuine ∧
        Agree (fun _ => False) (final b s calls.all) (final b s' calls.genuine) := by
  induction calls generalizing s s' with
  | nil => exact ⟨rfl, h.mono fun _ => False.elim⟩
  | cons head rest ih =>
    obtain ⟨mark, call⟩ := head
    obtain ⟨hhead, hrest⟩ := List.forall_mem_cons.mp hforged
    obtain ⟨hclaims, hunclaimed'⟩ := hunclaimed
    have hkey' : (after b s call).storeSeal.adminPublicKey = key := adminPublicKey_after.trans hkey
    cases mark with
    | true =>
      have hcall : call.authentic key = false := hhead rfl
      have hagree : Agree (authenticIds key rest) (after b s call) s' := by
        refine (h.mono fun _ => authenticIds_cons _).after_left (hkey ▸ hcall) ?_
        rintro _ hid rfl hrecordable
        rw [Option.isSome_iff_ne_none]
        exact fun hnone => hclaims rfl hrecordable hnone hid
      have hih := ih hagree hkey' hrest hunclaimed'
      refine ⟨?_, hih.2⟩
      change authenticAnswers b key s (call :: Marked.all rest) = _
      rw [authenticAnswers_cons, hcall]
      exact hih.1
    | false =>
      obtain ⟨hagree, hans⟩ := h.after_both (b := b) hkey
      have hih := ih hagree hkey' hrest hunclaimed'
      refine ⟨?_, hih.2⟩
      change authenticAnswers b key s (call :: Marked.all rest)
        = authenticAnswers b key s' (call :: Marked.genuine rest)
      rw [authenticAnswers_cons, authenticAnswers_cons, hih.1]
      by_cases hcall : call.authentic key
      . rw [hans hcall]
      . rw [if_neg hcall, if_neg hcall]

theorem exists_record_of_forged (hforged : call.authentic s.storeSeal.adminPublicKey = false)
    (hrecordable : call.recordable) (hnew : s.controlEvent? call.command.commandId = none)
    : ∃ row, (after b s call).controlEvent? call.command.commandId = some row ∧
        row.outcome = .denied := by
  obtain ⟨denial, hdenial⟩ : ∃ denial,
      validateControlCommand call.command s.storeSeal call.now = some denial := by
    refine Option.ne_none_iff_exists'.mp fun hvalid => ?_
    rw [Call.authentic, verifies_of_validate hvalid] at hforged
    exact absurd hforged (by decide)
  simp only [Call.recordable, Bool.and_eq_true, decide_eq_true_eq] at hrecordable
  obtain ⟨⟨havail, hlow⟩, hhigh⟩ := hrecordable
  obtain ⟨ledger, hled⟩ := exists_insert_of_new
    (controlRow call.command .denied denial s.storeSeal.controlVersion none) hnew
  have hbind : bindInt call.command.expectedControlVersion
      = .ok call.command.expectedControlVersion := if_pos ⟨hlow, hhigh⟩
  have hrec : recordControl s call.command .denied denial s.storeSeal.controlVersion none
      = .ok { s with controlEvents := ledger } := by
    simp only [recordControl, hbind, Apcc.insert_eq_ok.mpr hled]
    rfl
  have hans : answerControl b s call.command call.now
      = .ok (⟨call.command.commandId, .denied, denial, s.storeSeal.controlVersion, none⟩,
          { s with controlEvents := ledger }) := by
    simp only [answerControl, hnew, hdenial, denyControl, hrec]
    rfl
  refine ⟨controlRow call.command .denied denial s.storeSeal.controlVersion none, ?_, rfl⟩
  rw [after, applyControlCommand_of_answer havail hans rfl]
  refine (controlEvent?_of_insert hled rfl _).trans ?_
  rw [hnew]
  exact if_pos rfl

theorem controlEvent?_final (calls : List Call) (hrow : s.controlEvent? commandId = some row)
    : (final b s calls).controlEvent? commandId = some row := by
  induction calls generalizing s with
  | nil => exact hrow
  | cons call calls ih =>
    refine ih ?_
    rcases after_cases b s call with ⟨decision, hanswered⟩ | hsame
    . exact hanswered.recorded hrow
    . rw [hsame, hrow]

theorem denied_of_recorded (havail : call.available)
    (hrow : s.controlEvent? call.command.commandId = some row) (hdenied : row.outcome = .denied)
    : ∃ decision s', applyControlCommand b s call = .ok (decision, s') ∧
        decision.outcome = .denied := by
  have hans : answerControl b s call.command call.now
      = .ok (answerRecorded s call.command row) := by
    simp only [answerControl, hrow]
  have happly : applyControlCommand b s call = .ok (answerRecorded s call.command row) := by
    refine applyControlCommand_of_answer havail hans ?_
    unfold answerRecorded
    split <;> rfl
  refine ⟨(answerRecorded s call.command row).1, (answerRecorded s call.command row).2, happly, ?_⟩
  unfold answerRecorded
  split
  . rfl
  . exact hdenied

theorem forged_commands_insulated (b : Boundary) (s : Store)
    : (∀ calls : Marked,
        (∀ call ∈ calls, call.1 = true → call.2.authentic s.storeSeal.adminPublicKey = false) →
        Unclaimed b s.storeSeal.adminPublicKey s calls →
        authenticAnswers b s.storeSeal.adminPublicKey s calls.all
            = authenticAnswers b s.storeSeal.adminPublicKey s calls.genuine ∧
          (final b s calls.all).tables = (final b s calls.genuine).tables ∧
          (final b s calls.all).storeSeal.controlVersion
            = (final b s calls.genuine).storeSeal.controlVersion) ∧
      (∀ (forged call : Call) (between : List Call),
        forged.authentic s.storeSeal.adminPublicKey = false → forged.recordable = true →
        forged.command.commandId = call.command.commandId →
        s.controlEvent? call.command.commandId = none → call.available →
        ∃ decision s', applyControlCommand b (final b s (forged :: between)) call
            = .ok (decision, s') ∧ decision.outcome = .denied) := by
  refine ⟨?_, ?_⟩
  . intro calls hforged hunclaimed
    have hsame : Agree (authenticIds s.storeSeal.adminPublicKey calls) s s :=
      ⟨rfl, rfl, fun _ _ => rfl⟩
    obtain ⟨hanswers, hagree⟩ := runs_agree calls hsame rfl hforged hunclaimed
    exact ⟨hanswers, hagree.tables, by rw [hagree.storeSeal]⟩
  . intro forged call between hforged hrecordable hid hnew havail
    obtain ⟨_, hrow, hdenied⟩ := exists_record_of_forged (b := b) hforged hrecordable (hid ▸ hnew)
    have hfinal := controlEvent?_final (b := b) between hrow
    exact denied_of_recorded havail (hid ▸ hfinal) hdenied

end Gcb

namespace Gcb.Sample

theorem authentic_bad : (bump "bad").authentic store.storeSeal.adminPublicKey = false := by
  simp [Call.authentic, bump, ControlCommand.verifies, Platform.b64decode,
    Apcc.Platform.ed25519Verify]

/-- A retried command is answered from its record, which a forged one in between cannot take. -/
theorem forged_commands_insulated_retry
    : authenticAnswers boundary store.storeSeal.adminPublicKey store
        [bump "good", bump "bad", bump "good"] =
      authenticAnswers boundary store.storeSeal.adminPublicKey store
        [bump "good", bump "good"] := by
  refine ((forged_commands_insulated boundary store).1
    [(false, bump "good"), (true, bump "bad"), (false, bump "good")] ?_ ?_).1
  . simp [authentic_bad]
  . have hafter : after boundary store (bump "good") = bumped := by
      rw [after, applyControlCommand_bump]
    refine ⟨nofun, fun _ _ hnone => ?_, nofun, trivial⟩
    rw [hafter] at hnone
    exact absurd hnone nofun

/-- A forged command under the id of an authentic one gets the authentic one denied. -/
theorem forged_command_takes_id
    : (bump "bad").authentic store.storeSeal.adminPublicKey = false ∧
      (bump "good").authentic store.storeSeal.adminPublicKey = true ∧
      authenticAnswers boundary store.storeSeal.adminPublicKey store [bump "bad", bump "good"]
        ≠ authenticAnswers boundary store.storeSeal.adminPublicKey store [bump "good"] := by
  have hgood : (bump "good").authentic store.storeSeal.adminPublicKey := by
    simp [Call.authentic, bump, ControlCommand.verifies, Platform.b64decode,
      Apcc.Platform.ed25519Verify]
  refine ⟨authentic_bad, hgood, fun heq => ?_⟩
  obtain ⟨_, hrow, hdenied⟩ := exists_record_of_forged (b := boundary) authentic_bad rfl rfl
  have hdenial : ∃ decision s', applyControlCommand boundary
      (after boundary store (bump "bad")) (bump "good") = .ok (decision, s') ∧
        decision.outcome = .denied := denied_of_recorded rfl hrow hdenied
  obtain ⟨decision, s', happly, hout⟩ := hdenial
  rw [authenticAnswers_cons, authenticAnswers_cons, authenticAnswers_cons, authentic_bad, hgood,
    happly, applyControlCommand_bump] at heq
  have hdecision : decision = bumpRow.decision := by
    simpa [authenticAnswers, answers, Except.map] using heq
  rw [hdecision] at hout
  exact absurd hout (by decide)

end Gcb.Sample
