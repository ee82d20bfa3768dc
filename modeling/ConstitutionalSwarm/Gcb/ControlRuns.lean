import ConstitutionalSwarm.Apcc.Store.Progress
import ConstitutionalSwarm.Gcb.Control

namespace Gcb

open Raising
open Apcc (insert_eq_ok)

theorem bindInt_eq_ok (h : bindInt value = .ok bound)
    : (-2 ^ 63 ≤ value ∧ value < 2 ^ 63) ∧ bound = value := by
  unfold bindInt at h
  split at h
  . next hfits => exact ⟨hfits, (Except.ok.inj h).symm⟩
  . simp at h

variable [Platform] {b : Boundary} {s s' t : Store} {call : Call} {decision : ControlDecision}

theorem recordControl_eq_ok (h : recordControl s command outcome reason version result = .ok s')
    : (-2 ^ 63 ≤ command.expectedControlVersion ∧ command.expectedControlVersion < 2 ^ 63) ∧
      ∃ ledger, s.controlEvents.insert? (controlRow command outcome reason version result)
        = some ledger ∧ s' = { s with controlEvents := ledger } := by
  simp only [recordControl, bind_eq_ok, insert_eq_ok, pure_inj] at h
  obtain ⟨_, hbind, _, _, ledger, hled, rfl⟩ := h
  exact ⟨(bindInt_eq_ok hbind).1, ledger, hled, rfl⟩

def Call.recordable (call : Call) : Bool :=
  call.available && -2 ^ 63 ≤ call.command.expectedControlVersion &&
    call.command.expectedControlVersion < 2 ^ 63

inductive Answered (s : Store) (call : Call) : ControlDecision → Store → Prop where
  | failed : Answered s call ⟨call.command.commandId, .denied, "persistence_error", -1, none⟩ s
  | replayed {prior : ControlEventRow}
      (hprior : s.controlEvent? call.command.commandId = some prior)
      (hsame : prior.commandMaterial = call.command.material) : Answered s call prior.decision s
  | collided {prior : ControlEventRow}
      (hprior : s.controlEvent? call.command.commandId = some prior)
      (hother : prior.commandMaterial ≠ call.command.material)
    : Answered s call
        ⟨call.command.commandId, .denied, "control_idempotency_conflict",
          prior.resultingControlVersion, none⟩
        (securityEvent s "control_collision_attempt" call.command)
  | denied {ledger : Table ControlEventRow} (reason : String) (events : List SecurityEventRow)
      (hrecordable : call.recordable = true)
      (hnew : s.controlEvent? call.command.commandId = none)
      (hledger : s.controlEvents.insert?
        (controlRow call.command .denied reason s.storeSeal.controlVersion none) = some ledger)
    : Answered s call
        (controlRow call.command .denied reason s.storeSeal.controlVersion none).decision
        { s with controlEvents := ledger, securityEvents := events }
  | committed {ledger : Table ControlEventRow} {tables : Tables} {result : Option Int}
      (hnew : s.controlEvent? call.command.commandId = none)
      (hvalid : validateControlCommand call.command s.storeSeal call.now = none)
      (hledger : s.controlEvents.insert? (controlRow call.command .committed
        "verified_admin_transition" (s.storeSeal.controlVersion + 1) result) = some ledger)
    : Answered s call
        (controlRow call.command .committed "verified_admin_transition"
          (s.storeSeal.controlVersion + 1) result).decision
        { s with
          tables, controlEvents := ledger
          storeSeal := { s.storeSeal with controlVersion := s.storeSeal.controlVersion + 1 } }

theorem denyControl_eq_ok
    (havail : call.available) (hnew : s.controlEvent? call.command.commandId = none)
    (h : denyControl s call.command reason = .ok (decision, s'))
    : Answered s call decision { s' with securityEvents := events } := by
  simp only [denyControl, bind_eq_ok, pure_inj, Prod.mk.injEq] at h
  obtain ⟨_, hrec, rfl, rfl⟩ := h
  obtain ⟨hfits, _, hled, rfl⟩ := recordControl_eq_ok hrec
  exact .denied reason events (by simpa [Call.recordable, havail] using hfits) hnew hled

theorem transitionControl_eq_ok (havail : call.available)
    (hnew : s.controlEvent? call.command.commandId = none)
    (hvalid : validateControlCommand call.command s.storeSeal call.now = none)
    (h : transitionControl b s call.command = .ok (decision, s'))
    : Answered s call decision s' := by
  unfold transitionControl at h
  split at h
  . simp only [bind_eq_ok, pure_inj, Prod.mk.injEq] at h
    obtain ⟨_, hvers, _, hrec, rfl, rfl⟩ := h
    obtain ⟨-, rfl⟩ := bindInt_eq_ok hvers
    obtain ⟨-, _, hled, rfl⟩ := recordControl_eq_ok hrec
    exact .committed hnew hvalid hled
  . split at h
    . simp only [bind_eq_ok, pure_inj, Prod.mk.injEq] at h
      obtain ⟨⟨_, denied⟩, hdeny, rfl, rfl⟩ := h
      exact denyControl_eq_ok havail hnew hdeny
    . simp at h

theorem answerControl_eq_ok (havail : call.available)
    (h : answerControl b s call.command call.now = .ok (decision, s'))
    : Answered s call decision s' := by
  unfold answerControl at h
  split at h
  . next prior hprior =>
    have h := Except.ok.inj h
    unfold answerRecorded at h
    split at h
    . next hother =>
      cases h
      exact .collided hprior hother
    . next hsame =>
      cases h
      exact .replayed hprior (not_not.mp hsame)
  . next hnew =>
    split at h
    . exact denyControl_eq_ok havail hnew h
    . next hvalid => exact transitionControl_eq_ok havail hnew hvalid h

theorem answered_of_applyControlCommand (h : applyControlCommand b s call = .ok (decision, s'))
    : Answered s call decision s' := by
  unfold applyControlCommand at h
  split at h
  . next answer htx =>
    cases h
    simp only [controlTransaction, bind_eq_ok, exists_unit, ensure_eq_ok, pure_inj] at htx
    obtain ⟨havail, answer, hans, -, rfl⟩ := htx
    exact answerControl_eq_ok havail hans
  . split at h
    . obtain ⟨rfl, rfl⟩ := Prod.mk.inj (Except.ok.inj h).symm
      exact .failed
    . simp at h

theorem applyControlCommand_of_answer (havail : call.available)
    (hans : answerControl b s call.command call.now = .ok answer)
    (hapcc : answer.2.tables.apcc = s.tables.apcc) : applyControlCommand b s call = .ok answer := by
  simp [applyControlCommand, controlTransaction, havail, hans, finalize, hapcc]

theorem applyControlCommand_of_recorded (havail : call.available)
    (hprior : s.controlEvent? call.command.commandId = some prior)
    (hsame : prior.commandMaterial = call.command.material)
    : applyControlCommand b s call = .ok (prior.decision, s) := by
  refine applyControlCommand_of_answer havail ?_ rfl
  simp [answerControl, hprior, answerRecorded, hsame]

def Store.Provisioned (s : Store) : Prop :=
  s.storeSeal.controlVersion = 0 ∧ s.controlEvents = .empty

inductive Event where
  | control (call : Call)
  | elsewhere (tables : Tables)

def step (b : Boundary) (s : Store) : Event → Py Store
  | .control call => (applyControlCommand b s call).map Prod.snd
  | .elsewhere tables => .ok { s with tables }

abbrev Runs (b : Boundary) : Store → Store → Prop :=
  Transition.Run (step b) fun _ _ => True

def Store.committedVersions (s : Store) : List Int :=
  (s.controlEvents.rows.filter (·.outcome = .committed)).map (·.resultingControlVersion)

def Store.Numbered (s : Store) : Prop :=
  ∃ n : Nat, s.storeSeal.controlVersion = n ∧
    s.committedVersions = (List.range' 1 n).map Int.ofNat

variable {row : ControlEventRow}

omit [Platform] in
theorem committedVersions_of_insert
    (hled : s.controlEvents.insert? row = some ledger) (hs' : s'.controlEvents = ledger)
    : s'.committedVersions =
      s.committedVersions ++
        if row.outcome = .committed then [row.resultingControlVersion] else [] := by
  rw [Store.committedVersions, Store.committedVersions, hs', Table.rows_of_insert? hled,
    List.filter_append, List.map_append]
  congr 1
  by_cases hrow : row.outcome = .committed <;> simp [hrow]

theorem Answered.numbered (h : Answered s call decision s') (hs : s.Numbered) : s'.Numbered := by
  obtain ⟨n, hvers, hversions⟩ := hs
  cases h with
  | failed => exact ⟨n, hvers, hversions⟩
  | replayed => exact ⟨n, hvers, hversions⟩
  | collided => exact ⟨n, hvers, hversions⟩
  | denied reason events hrecordable hnew hled =>
    refine ⟨n, hvers, ?_⟩
    rw [committedVersions_of_insert hled rfl, hversions]
    simp [controlRow]
  | committed hnew hvalid hled =>
    refine ⟨n + 1, by simp [hvers], ?_⟩
    rw [committedVersions_of_insert hled rfl, hversions, List.range'_concat]
    simp [controlRow, hvers, Int.add_comm]

theorem Runs.numbered (h : Runs b s s') (hs : s.Numbered) : s'.Numbered := by
  refine h.invariant (fun s event s' _ hstep hs => ?_) hs
  cases event with
  | control call =>
    obtain ⟨_, happly, rfl⟩ := Except.map_eq_ok.mp hstep
    exact (answered_of_applyControlCommand happly).numbered hs
  | elsewhere tables =>
    cases hstep
    exact hs

omit [Platform] in
theorem Store.Provisioned.numbered (h : s.Provisioned) : s.Numbered :=
  ⟨0, h.1, by simp [committedVersions, h.2, Table.empty]⟩

omit [Platform] in
theorem controlEvent?_of_insert (hled : s.controlEvents.insert? row = some ledger)
    (hs' : s'.controlEvents = ledger) (cid : String)
    : s'.controlEvent? cid =
      (s.controlEvent? cid).or (if row.commandId = cid then some row else none) := by
  rw [Store.controlEvent?, Store.controlEvent?, hs', Table.find?_insert? hled]
  simp

theorem Answered.recorded (h : Answered s call decision s')
    (hrow : s.controlEvent? cid = some row)
    : s'.controlEvent? cid = some row := by
  cases h with
  | failed => exact hrow
  | replayed => exact hrow
  | collided => exact hrow
  | denied reason events hrecordable hnew hled =>
    rw [controlEvent?_of_insert hled rfl, hrow, Option.some_or]
  | committed hnew hvalid hled =>
    rw [controlEvent?_of_insert hled rfl, hrow, Option.some_or]

theorem Runs.recorded (h : Runs b s s')
    (hrow : s.controlEvent? cid = some row) : s'.controlEvent? cid = some row := by
  refine h.invariant (p := fun s => s.controlEvent? cid = some row)
    (fun s event s' _ hstep hs => ?_) hrow
  cases event with
  | control call =>
    obtain ⟨_, happly, rfl⟩ := Except.map_eq_ok.mp hstep
    exact (answered_of_applyControlCommand happly).recorded hs
  | elsewhere tables =>
    cases hstep
    exact hs

theorem Answered.record (h : Answered s call decision s')
    (hnew : s.controlEvent? call.command.commandId = none)
    (hrow : s'.controlEvent? call.command.commandId = some row)
    : decision = row.decision ∧ row.commandMaterial = call.command.material := by
  cases h with
  | failed => simp [hnew] at hrow
  | replayed hprior => simp [hnew] at hprior
  | collided hprior => simp [hnew] at hprior
  | denied reason events hrecordable hnew hled =>
    rw [controlEvent?_of_insert hled rfl, hnew] at hrow
    simp only [controlRow, if_true, Option.none_or, Option.some.injEq] at hrow
    subst hrow
    exact ⟨rfl, rfl⟩
  | committed hnew hvalid hled =>
    rw [controlEvent?_of_insert hled rfl, hnew] at hrow
    simp only [controlRow, if_true, Option.none_or, Option.some.injEq] at hrow
    subst hrow
    exact ⟨rfl, rfl⟩

theorem Answered.unchanged (h : Answered s call decision s') (hdenied : decision.outcome = .denied)
    : s'.tables = s.tables ∧ s'.storeSeal = s.storeSeal := by
  cases h with
  | committed => simp [controlRow, ControlEventRow.decision] at hdenied
  | failed | replayed | collided | denied => exact ⟨rfl, rfl⟩

theorem Answered.advanced (h : Answered s call decision s') (hcomm : decision.outcome = .committed)
    (hnew : s.controlEvent? call.command.commandId = none)
    : s'.storeSeal.controlVersion = s.storeSeal.controlVersion + 1 ∧
        decision.controlVersion = s'.storeSeal.controlVersion := by
  cases h with
  | failed => simp at hcomm
  | replayed hprior => simp [hnew] at hprior
  | collided => simp at hcomm
  | denied => simp [controlRow, ControlEventRow.decision] at hcomm
  | committed => exact ⟨rfl, rfl⟩

theorem applyControlCommand_atomic (b : Boundary)
    : (∀ s call decision s', applyControlCommand b s call = .ok (decision, s') →
        decision.outcome = .denied → s'.tables = s.tables ∧ s'.storeSeal = s.storeSeal) ∧
      (∀ s call decision s', applyControlCommand b s call = .ok (decision, s') →
        decision.outcome = .committed → s.controlEvent? call.command.commandId = none →
        s'.storeSeal.controlVersion = s.storeSeal.controlVersion + 1 ∧
          decision.controlVersion = s'.storeSeal.controlVersion) ∧
      (∀ s₀ s, s₀.Provisioned → Runs b s₀ s → s.Numbered) ∧
      (∀ s call decision s' row, applyControlCommand b s call = .ok (decision, s') →
        s.controlEvent? call.command.commandId = none →
        s'.controlEvent? call.command.commandId = some row →
        decision = row.decision ∧ ∀ t later, Runs b s' t → later.command = call.command →
          later.available → applyControlCommand b t later = .ok (decision, t)) := by
  refine ⟨?_, ?_, ?_, ?_⟩
  . intro s call decision s' h
    exact (answered_of_applyControlCommand h).unchanged
  . intro s call decision s' h
    exact (answered_of_applyControlCommand h).advanced
  . intro s₀ s hs₀ hrun
    exact hrun.numbered hs₀.numbered
  . intro s call decision s' row h hnew hrow
    obtain ⟨rfl, hmaterial⟩ := (answered_of_applyControlCommand h).record hnew hrow
    refine ⟨rfl, fun t later hrun hcommand havail => ?_⟩
    -- the record is still there, under the material of the same command
    have ht := Runs.recorded hrun hrow
    rw [← hcommand] at ht hmaterial
    exact applyControlCommand_of_recorded havail ht hmaterial

end Gcb

namespace Gcb.Sample

scoped instance platform : Platform where
  sha256 _ := List.replicate 32 0
  length_sha256 _ := by simp
  ed25519Verify _ signature _ := signature = [1]
  isNFC _ := true
  repr _ := ""
  floatRepr _ := ""
  floatOfText _ := none
  floatOfInt value := some (.finite value)
  items _ := .ok []
  sorted values := .ok values
  sortedSet values := .ok values
  b64decode value := .ok (if value = "good" then [1] else [])

def boundary : Boundary where
  config := Apcc.Sample.authority.config
  verifierPolicyId := "policy"
  policySigner := none

def workflows (generation : Int) : Table WorkflowRow where
  rows := [⟨"workflow", generation, "1", "", 1, "policy", "root", 1, 1, 0⟩]
  checked := by simp [TableSchema.check]
  distinct := List.pairwise_singleton _ _

def store : Store where
  storeSeal := ⟨"store", "policy", "policy", [], "admin", [], 0⟩
  tables := { Tables.empty with workflows := workflows 1 }
  controlEvents := .empty
  securityEvents := []

def bump (signature : String) : Call where
  command :=
    { storeId := "store", commandId := "command", action := .bumpWorkflowGeneration,
      workflowId := "workflow", expectedControlVersion := 0, issuedAt := 0, expiresAt := 60,
      parameters := [], adminKeyId := "admin", signature }
  now := 0
  available := true

def bumpRow : ControlEventRow :=
  controlRow (bump "good").command .committed "verified_admin_transition" 1 (some 2)

def bumped : Store where
  storeSeal := { store.storeSeal with controlVersion := 1 }
  tables := { store.tables with workflows := workflows 2 }
  controlEvents :=
    { rows := [bumpRow]
      checked := by simp [TableSchema.check]
      distinct := List.pairwise_singleton _ _ }
  securityEvents := []

theorem applyControlCommand_bump
    : applyControlCommand boundary store (bump "good") = .ok (bumpRow.decision, bumped) := by
  have hvalid : validateControlCommand (bump "good").command store.storeSeal 0 = none := by
    simp [validateControlCommand, bump, store, ControlCommand.verifies, Platform.b64decode,
      Apcc.Platform.ed25519Verify]
  have hnew : store.controlEvent? (bump "good").command.commandId = none := rfl
  refine applyControlCommand_of_answer rfl ?_ rfl
  simp only [answerControl, hnew]
  rw [show (bump "good").now = 0 from rfl, hvalid]
  rfl

theorem applyControlCommand_atomic_bump
    : bumped.storeSeal.controlVersion = store.storeSeal.controlVersion + 1 ∧ bumped.Numbered ∧
      ∀ tables, applyControlCommand boundary { bumped with tables } (bump "good") =
        .ok (bumpRow.decision, { bumped with tables }) := by
  obtain ⟨-, hversion, hnumbered, hreplay⟩ := applyControlCommand_atomic boundary
  have hrun : Runs boundary store bumped := by
    refine (Transition.Run.refl store).tail (a := .control (bump "good")) trivial ?_
    rw [step, applyControlCommand_bump]
    rfl
  refine ⟨(hversion _ _ _ _ applyControlCommand_bump rfl rfl).1,
    hnumbered _ _ ⟨rfl, rfl⟩ hrun, fun tables => ?_⟩
  exact (hreplay _ _ _ _ bumpRow applyControlCommand_bump rfl rfl).2 _ _
    (.tail (.refl bumped) (a := .elsewhere tables) trivial rfl) rfl rfl

theorem controlVersion_of_replay
    : ¬ ∀ s call decision s', applyControlCommand boundary s call = .ok (decision, s') →
        decision.outcome = .committed →
        s'.storeSeal.controlVersion = s.storeSeal.controlVersion + 1 := by
  intro h
  have hrow : bumped.controlEvent? (bump "good").command.commandId = some bumpRow := rfl
  have hreplay : applyControlCommand boundary bumped (bump "good") =
      .ok (bumpRow.decision, bumped) :=
    applyControlCommand_of_recorded rfl hrow rfl
  have hvers := h bumped (bump "good") _ _ hreplay rfl
  omega

end Gcb.Sample
