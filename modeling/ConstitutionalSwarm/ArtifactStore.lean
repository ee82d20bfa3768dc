import ConstitutionalSwarm.Apcc.Failure
import ConstitutionalSwarm.Data.Assoc
import ConstitutionalSwarm.Data.PyValue

namespace Artifacts

open Raising Assoc

structure Key where
  workflowId : String
  id : String
  deriving DecidableEq

structure Artifact where
  artifactId : String
  taskId : String
  agentId : String
  domain : String
  content : PyValue

structure Store where
  artifacts : List (Key × Artifact)
  byId : List (String × List Key)
  byTask : List (Key × List Key)
  byDomain : List (Key × List Key)
  byAgent : List (Key × List Key)
  revoked : List Key
  watchers : List (Key × List ℕ)
  /-- The seal of a governed workflow and its capability, an object of its own. -/
  guards : List (String × String × ℕ)
  capabilities : ℕ

namespace Store

def empty : Store := ⟨[], [], [], [], [], [], [], [], 0⟩

def append {α β : Type} [DecidableEq α] (a : α) (b : β) (l : List (α × List β))
    : List (α × List β) :=
  Assoc.set a ((l.lookup a).getD [] ++ [b]) l

variable (s : Store)

variable (workflowId : String) (artifact : Artifact)

def Governed : Prop :=
  (s.guards.lookup workflowId).isSome = true

instance (workflowId : String) : Decidable (s.Governed workflowId) :=
  inferInstanceAs (Decidable (_ = _))

def bindGoverned (sealId : String) : Py Store :=
  match s.guards.lookup workflowId with
  | some (prior, _) => do
    raiseIf (prior ≠ sealId) (.bypassDenied "governed_projection_seal_conflict")
    return s
  | none =>
    return { s with
      guards := Assoc.set workflowId (sealId, s.capabilities) s.guards
      capabilities := s.capabilities + 1 }

def requireUnsealed : Py Unit :=
  raiseIf (!s.guards.isEmpty) (.bypassDenied "governed_projection_is_sealed")

def requireCapability (capability : ℕ) : Py Unit :=
  ensure ((s.guards.lookup workflowId).map Prod.snd = some capability)
    (.bypassDenied "invalid_projection_capability")

def collectCallbacks : List ℕ :=
  [artifact.taskId, artifact.domain].flatMap fun key =>
    (s.watchers.lookup ⟨workflowId, key⟩).getD []

def insertion : Store :=
  let key : Key := ⟨workflowId, artifact.artifactId⟩
  { s with
    artifacts := Assoc.set key artifact s.artifacts
    byId := append artifact.artifactId key s.byId
    byTask := append ⟨workflowId, artifact.taskId⟩ key s.byTask
    byDomain := append ⟨workflowId, artifact.domain⟩ key s.byDomain
    byAgent := append ⟨workflowId, artifact.agentId⟩ key s.byAgent }

def insert (contentHash : Artifact → Option String) (workflowId : String) (artifact : Artifact)
    : Py (Store × List ℕ) := do
  raiseIf (s.artifacts.lookup ⟨workflowId, artifact.artifactId⟩).isSome
    (.valueError ("Artifact " ++ artifact.artifactId ++ " already exists"))
  ensure (contentHash artifact).isSome
    (.valueError "Artifact metadata and canonical fields must be finite JSON values")
  return (s.insertion workflowId artifact, s.collectCallbacks workflowId artifact)

def publishDeferred (contentHash : Artifact → Option String) (workflowId : String)
    (artifact : Artifact) (capability : ℕ) (allowed : Bool) : Py (Store × List ℕ) := do
  if workflowId ≠ "" then
    s.requireCapability workflowId capability
    ensure allowed (.bypassDenied "projection_artifact_not_authoritative")
  s.insert contentHash workflowId artifact

def revoke (artifactId : String) : Py Store := do
  s.requireUnsealed
  return { s with revoked := ⟨"", artifactId⟩ :: s.revoked }

def revokeGoverned (artifactId : String) (capability : ℕ) : Py Store := do
  s.requireCapability workflowId capability
  return { s with revoked := ⟨workflowId, artifactId⟩ :: s.revoked }

def watch (key : String) (callback : ℕ) (workflowId : Option String) : Py Store := do
  raiseIf (workflowId.isNone && !s.guards.isEmpty)
    (.bypassDenied "workflow_id_required_for_governed_watch")
  return { s with watchers := append ⟨workflowId.getD "", key⟩ callback s.watchers }

def find (artifactId : String) : Option String → Py (Option (Key × Artifact))
  | some workflowId =>
    let key : Key := ⟨workflowId, artifactId⟩
    return (s.artifacts.lookup key).map (key, ·)
  | none => do
    let found := (s.byId.lookup artifactId).getD []
    raiseIf (found.any fun key => s.Governed key.1)
      (.bypassDenied "workflow_id_required_for_governed_read")
    match found with
    | [key] => return (s.artifacts.lookup key).map (key, ·)
    | _ => return none

def visibilitySnapshot (keys : List Key) : List (Key × Artifact) :=
  keys.filterMap fun key =>
    if key ∈ s.revoked then none else (s.artifacts.lookup key).map (key, ·)

def resolveVisible (keys : List Key) (guard : Key → Bool) : List (Key × Artifact) :=
  (s.visibilitySnapshot keys).filter fun entry => !s.Governed entry.1.1 || guard entry.1

end Store

inductive Phase where
  | idle
  | publishing (artifact : Artifact)
  | inserting (artifact : Artifact)
  | found (key : Key) (artifact : Artifact)
  /-- The snapshot of some keys is taken of a store; `get` holds its artifact already. -/
  | reading (found : Option Artifact) (taken : Store) (keys : List Key)
  | returned (artifacts : List Artifact)

inductive Call where
  | bindGoverned (workflowId sealId : String)
  | publish (artifact : Artifact)
  | publishDeferred (artifact : Artifact)
  | revoke (artifactId : String)
  | watch (key : String) (callback : ℕ) (workflowId : Option String)
  | get (artifactId : String) (workflowId : Option String)
  | getByTask (taskId workflowId : String)
  | getByDomain (domain workflowId : String)
  | getByAgent (agentId workflowId : String)
  | portPublish (workflowId : String) (artifact : Artifact) (capability : ℕ) (allowed : Bool)
  | portRevoke (workflowId artifactId : String) (capability : ℕ)

def begin (contentHash : Artifact → Option String) (s : Store) : Call → Py (Store × Phase)
  | .bindGoverned workflowId sealId => return (← s.bindGoverned workflowId sealId, .idle)
  | .publish artifact => do
    s.requireUnsealed
    return (s, .publishing artifact)
  | .publishDeferred artifact => do
    s.requireUnsealed
    return (s, .inserting artifact)
  | .revoke artifactId => return (← s.revoke artifactId, .idle)
  | .watch key callback workflowId => return (← s.watch key callback workflowId, .idle)
  | .get artifactId workflowId => do
    match ← s.find artifactId workflowId with
    | some (key, artifact) => return (s, .found key artifact)
    | none => return (s, .returned [])
  | .getByTask taskId workflowId =>
    return (s, .reading none s ((s.byTask.lookup ⟨workflowId, taskId⟩).getD []))
  | .getByDomain domain workflowId =>
    return (s, .reading none s ((s.byDomain.lookup ⟨workflowId, domain⟩).getD []))
  | .getByAgent agentId workflowId =>
    return (s, .reading none s ((s.byAgent.lookup ⟨workflowId, agentId⟩).getD []))
  | .portPublish workflowId artifact capability allowed => do
    return ((← s.publishDeferred contentHash workflowId artifact capability allowed).1, .idle)
  | .portRevoke workflowId artifactId capability =>
    return (← s.revokeGoverned workflowId artifactId capability, .idle)

def proceed (contentHash : Artifact → Option String) (s : Store) (guard : Key → Bool)
    : Phase → Py (Store × Phase)
  | .publishing artifact => do
    s.requireUnsealed
    return (s, .inserting artifact)
  | .inserting artifact => return ((← s.insert contentHash "" artifact).1, .idle)
  | .found key artifact => return (s, .reading (some artifact) s [key])
  | .reading found taken keys =>
    let visible := taken.resolveVisible keys guard
    return (s, .returned (match found with
      | some artifact => if visible.isEmpty then [] else [artifact]
      | none => visible.map Prod.snd))
  | .idle | .returned _ => return (s, .idle)

structure System where
  store : Store
  phases : ℕ → Phase

inductive Event where
  | call (thread : ℕ) (call : Call)
  | proceed (thread : ℕ) (guard : Key → Bool)

namespace System

def after (sys : System) (thread : ℕ) : Py (Store × Phase) → System
  | .ok (store, phase) => ⟨store, Function.update sys.phases thread phase⟩
  | .error _ => ⟨sys.store, Function.update sys.phases thread .idle⟩

def step (contentHash : Artifact → Option String) (sys : System) : Event → System
  | .call thread call => sys.after thread (begin contentHash sys.store call)
  | .proceed thread guard =>
    sys.after thread (Artifacts.proceed contentHash sys.store guard (sys.phases thread))

def initial : System := ⟨Store.empty, fun _ => .idle⟩

end System

inductive Delta where
  | none
  | bind (workflowId sealId : String)
  | insert (workflowId : String) (artifact : Artifact)
  | revoke (workflowId artifactId : String)
  | watch (workflowId key : String) (callback : ℕ)

def Event.thread : Event → ℕ
  | .call thread _ | .proceed thread _ => thread

section Steps

variable (contentHash : Artifact → Option String)

def Insertable (s : Store) (workflowId : String) (artifact : Artifact) : Prop :=
  s.artifacts.lookup ⟨workflowId, artifact.artifactId⟩ = none ∧ (contentHash artifact).isSome = true

inductive Does (sys : System) : Event → Delta → Prop
  | none {e : Event} : Does sys e .none
  | bind {thread : ℕ} {workflowId sealId : String}
      (hfree : sys.store.guards.lookup workflowId = Option.none)
      : Does sys (.call thread (.bindGoverned workflowId sealId)) (.bind workflowId sealId)
  | publish {thread : ℕ} {guard : Key → Bool} {artifact : Artifact}
      (hphase : sys.phases thread = .inserting artifact)
      : Does sys (.proceed thread guard) (.insert "" artifact)
  | portPublish {thread : ℕ} {workflowId : String} {artifact : Artifact} {capability : ℕ}
      {allowed : Bool} (hallowed : workflowId ≠ "" →
        (sys.store.guards.lookup workflowId).map Prod.snd = some capability ∧ allowed = true)
      : Does sys (.call thread (.portPublish workflowId artifact capability allowed))
          (.insert workflowId artifact)
  | revoke {thread : ℕ} {artifactId : String} (hopen : sys.store.guards = [])
      : Does sys (.call thread (.revoke artifactId)) (.revoke "" artifactId)
  | portRevoke {thread : ℕ} {workflowId artifactId : String} {capability : ℕ}
      (hcapable : (sys.store.guards.lookup workflowId).map Prod.snd = some capability)
      : Does sys (.call thread (.portRevoke workflowId artifactId capability))
          (.revoke workflowId artifactId)
  | watch {thread : ℕ} {key : String} {callback : ℕ} {workflowId : Option String}
      (hopen : workflowId = Option.none → sys.store.guards = [])
      : Does sys (.call thread (.watch key callback workflowId))
          (.watch (workflowId.getD "") key callback)

inductive Enters (sys : System) (e : Event) : Phase → Prop
  | idle : Enters sys e .idle
  | publishing {artifact : Artifact} : Enters sys e (.publishing artifact)
  | inserting {artifact : Artifact} (hopen : sys.store.guards = [])
      : Enters sys e (.inserting artifact)
  | found {key : Key} {artifact : Artifact} (h : sys.store.artifacts.lookup key = some artifact)
      : Enters sys e (.found key artifact)
  | scan {keys : List Key} : Enters sys e (.reading none sys.store keys)
  | check {key : Key} {artifact : Artifact} (h : sys.phases e.thread = .found key artifact)
      : Enters sys e (.reading (some artifact) sys.store [key])
  | nothing : Enters sys e (.returned [])
  | one {thread : ℕ} {guard : Key → Bool} {artifact : Artifact} {taken : Store} {keys : List Key}
      (hphase : sys.phases thread = .reading (some artifact) taken keys)
      (hvisible : taken.resolveVisible keys guard ≠ []) (he : e = .proceed thread guard)
      : Enters sys e (.returned [artifact])
  | all {thread : ℕ} {guard : Key → Bool} {taken : Store} {keys : List Key}
      (hphase : sys.phases thread = .reading none taken keys) (he : e = .proceed thread guard)
      : Enters sys e (.returned ((taken.resolveVisible keys guard).map Prod.snd))

def Store.apply (s : Store) : Delta → Store
  | .none => s
  | .bind workflowId sealId => { s with
      guards := Assoc.set workflowId (sealId, s.capabilities) s.guards
      capabilities := s.capabilities + 1 }
  | .insert workflowId artifact => s.insertion workflowId artifact
  | .revoke workflowId artifactId => { s with revoked := ⟨workflowId, artifactId⟩ :: s.revoked }
  | .watch workflowId key callback =>
    { s with watchers := append ⟨workflowId, key⟩ callback s.watchers }

def Delta.Fits (s : Store) : Delta → Prop
  | .insert workflowId artifact => Insertable contentHash s workflowId artifact
  | _ => True

variable {contentHash} {sys : System} {s s' : Store} {phase : Phase}

theorem requireUnsealed_eq_ok : s.requireUnsealed = .ok u ↔ s.guards = [] := by
  simp [Store.requireUnsealed, raiseIf_eq_ok]

theorem insert_eq_ok
    : s.insert contentHash workflowId artifact = .ok (s', callbacks) ↔
      Insertable contentHash s workflowId artifact ∧ s' = s.insertion workflowId artifact ∧
        callbacks = s.collectCallbacks workflowId artifact := by
  simp only [Store.insert, bind_eq_ok, exists_unit, raiseIf_eq_ok, ensure_eq_ok, pure_inj,
    Prod.mk.injEq, Insertable, Option.isSome_eq_false_iff, Option.isNone_iff_eq_none]
  tauto

theorem lookup_of_find (h : s.find artifactId workflowId = .ok (some entry))
    : s.artifacts.lookup entry.1 = some entry.2 := by
  have hmap {key : Key} (h : (s.artifacts.lookup key).map (key, ·) = some entry)
      : s.artifacts.lookup entry.1 = some entry.2 := by
    obtain ⟨_, hlook, rfl⟩ := Option.map_eq_some_iff.mp h
    exact hlook
  cases workflowId with
  | some workflowId => exact hmap (Except.ok.inj h)
  | none =>
    simp only [Store.find, bind_eq_ok, exists_unit] at h
    obtain ⟨-, h⟩ := h
    split at h
    . exact hmap (Except.ok.inj h)
    . cases h

theorem allowed_of_publishDeferred
    (h : s.publishDeferred contentHash workflowId artifact capability allowed = .ok (s', callbacks))
    : (workflowId ≠ "" →
        (s.guards.lookup workflowId).map Prod.snd = some capability ∧ allowed) ∧
      s.insert contentHash workflowId artifact = .ok (s', callbacks) := by
  unfold Store.publishDeferred at h
  split at h
  . simp only [Store.requireCapability, bind_eq_ok, exists_unit, ensure_eq_ok,
      decide_eq_true_eq] at h
    exact ⟨fun _ => ⟨h.1, h.2.1⟩, h.2.2⟩
  . next hempty => exact ⟨fun hnamed => absurd hnamed hempty, h⟩

def Ends (contentHash : Artifact → Option String) (sys : System) (e : Event)
    (result : Py (Store × Phase)) : Prop :=
  ∀ s' phase, result = .ok (s', phase) →
    ∃ d, Does sys e d ∧ d.Fits contentHash sys.store ∧ Enters sys e phase ∧ s' = sys.store.apply d

theorem begin_ends (sys : System) (thread : ℕ) (call : Call)
    : Ends contentHash sys (.call thread call) (begin contentHash sys.store call) := by
  intro s' phase h
  cases call with
  | bindGoverned workflowId sealId =>
    simp only [begin, bind_eq_ok, pure_inj, Prod.mk.injEq] at h
    obtain ⟨s₁, hbind, rfl, rfl⟩ := h
    unfold Store.bindGoverned at hbind
    split at hbind
    . simp only [bind_eq_ok, exists_unit, pure_inj] at hbind
      exact ⟨.none, .none, trivial, .idle, hbind.2.symm⟩
    . next hfree => exact ⟨_, .bind hfree, trivial, .idle, (Except.ok.inj hbind).symm⟩
  | publish artifact =>
    simp only [begin, bind_eq_ok, exists_unit, pure_inj, Prod.mk.injEq] at h
    obtain ⟨-, rfl, rfl⟩ := h
    exact ⟨.none, .none, trivial, .publishing, rfl⟩
  | publishDeferred artifact =>
    simp only [begin, bind_eq_ok, exists_unit, pure_inj, Prod.mk.injEq] at h
    obtain ⟨hopen, rfl, rfl⟩ := h
    exact ⟨.none, .none, trivial, .inserting (requireUnsealed_eq_ok.mp hopen), rfl⟩
  | revoke artifactId =>
    simp only [begin, Store.revoke, bind_eq_ok, exists_unit, pure_inj, Prod.mk.injEq] at h
    obtain ⟨_, ⟨hopen, rfl⟩, rfl, rfl⟩ := h
    exact ⟨_, .revoke (requireUnsealed_eq_ok.mp hopen), trivial, .idle, rfl⟩
  | watch key callback workflowId =>
    simp only [begin, Store.watch, bind_eq_ok, exists_unit, raiseIf_eq_ok, pure_inj,
      Prod.mk.injEq] at h
    obtain ⟨_, ⟨hopen, rfl⟩, rfl, rfl⟩ := h
    refine ⟨_, .watch ?_, trivial, .idle, rfl⟩
    rintro rfl
    simpa using hopen
  | get artifactId workflowId =>
    simp only [begin, bind_eq_ok] at h
    obtain ⟨found, hfind, h⟩ := h
    cases found with
    | none =>
      cases h
      exact ⟨.none, .none, trivial, .nothing, rfl⟩
    | some entry =>
      cases h
      exact ⟨.none, .none, trivial, .found (lookup_of_find hfind), rfl⟩
  | getByTask _ _ | getByDomain _ _ | getByAgent _ _ =>
    cases h
    exact ⟨.none, .none, trivial, .scan, rfl⟩
  | portPublish workflowId artifact capability allowed =>
    simp only [begin, bind_eq_ok, pure_inj, Prod.mk.injEq] at h
    obtain ⟨⟨s₁, callbacks⟩, hpublish, rfl, rfl⟩ := h
    obtain ⟨hallowed, hins⟩ := allowed_of_publishDeferred hpublish
    obtain ⟨hfits, rfl, -⟩ := insert_eq_ok.mp hins
    exact ⟨_, .portPublish hallowed, hfits, .idle, rfl⟩
  | portRevoke workflowId artifactId capability =>
    simp only [begin, Store.revokeGoverned, Store.requireCapability, bind_eq_ok, exists_unit,
      ensure_eq_ok, pure_inj, Prod.mk.injEq, decide_eq_true_eq] at h
    obtain ⟨_, ⟨hcapable, rfl⟩, rfl, rfl⟩ := h
    exact ⟨_, .portRevoke hcapable, trivial, .idle, rfl⟩

theorem proceed_ends (sys : System) (thread : ℕ) (guard : Key → Bool)
    : Ends contentHash sys (.proceed thread guard)
        (proceed contentHash sys.store guard (sys.phases thread)) := by
  intro s' phase h
  cases hphase : sys.phases thread with
  | idle | returned _ =>
    rw [hphase] at h
    cases h
    exact ⟨.none, .none, trivial, .idle, rfl⟩
  | publishing artifact =>
    simp only [hphase, proceed, bind_eq_ok, exists_unit, pure_inj, Prod.mk.injEq] at h
    obtain ⟨hopen, rfl, rfl⟩ := h
    exact ⟨.none, .none, trivial, .inserting (requireUnsealed_eq_ok.mp hopen), rfl⟩
  | inserting artifact =>
    simp only [hphase, proceed, bind_eq_ok, pure_inj, Prod.mk.injEq] at h
    obtain ⟨⟨s₁, callbacks⟩, hins, rfl, rfl⟩ := h
    obtain ⟨hfits, rfl, -⟩ := insert_eq_ok.mp hins
    exact ⟨_, .publish hphase, hfits, .idle, rfl⟩
  | found key artifact =>
    rw [hphase] at h
    cases h
    exact ⟨.none, .none, trivial, .check hphase, rfl⟩
  | reading found taken keys =>
    rw [hphase] at h
    cases h
    refine ⟨.none, .none, trivial, ?_, rfl⟩
    cases found with
    | none => exact .all hphase rfl
    | some artifact =>
      dsimp only
      split
      . exact .nothing
      . next hvisible => exact .one hphase (by simpa using hvisible) rfl

theorem step_does (contentHash : Artifact → Option String) (sys : System) (e : Event)
    : ∃ d phase, Does sys e d ∧ d.Fits contentHash sys.store ∧ Enters sys e phase ∧
        sys.step contentHash e
          =
        ⟨sys.store.apply d, Function.update sys.phases e.thread phase⟩ := by
  have hafter (res : Py (Store × Phase)) (h : Ends contentHash sys e res)
      : ∃ d phase, Does sys e d ∧ d.Fits contentHash sys.store ∧ Enters sys e phase ∧
          sys.after e.thread res
            =
          ⟨sys.store.apply d, Function.update sys.phases e.thread phase⟩ := by
    cases res with
    | error => exact ⟨.none, .idle, .none, trivial, .idle, rfl⟩
    | ok res =>
      obtain ⟨d, hdoes, hfits, henters, hstore⟩ := h res.1 res.2 rfl
      exact ⟨d, res.2, hdoes, hfits, henters, by rw [← hstore]; rfl⟩
  cases e with
  | call thread call => exact hafter _ (begin_ends sys thread call)
  | proceed thread guard => exact hafter _ (proceed_ends sys thread guard)

end Steps

def Event.Named : Event → Prop
  | .call _ (.bindGoverned workflowId _) | .call _ (.portPublish workflowId _ _ _) =>
    workflowId ≠ ""
  | _ => True

section Runs

variable (contentHash : Artifact → Option String)

inductive Reaches : System → Prop
  | initial : Reaches .initial
  | step {sys : System} {e : Event} (h : Reaches sys) (hnamed : e.Named)
      : Reaches (sys.step contentHash e)

def Untouched (s s' : Store) : Prop :=
  ∀ workflowId, ¬s.Governed workflowId → ∀ id,
    s'.artifacts.lookup ⟨workflowId, id⟩ = s.artifacts.lookup ⟨workflowId, id⟩ ∧
    (⟨workflowId, id⟩ ∈ s'.revoked ↔ ⟨workflowId, id⟩ ∈ s.revoked) ∧
    s'.watchers.lookup ⟨workflowId, id⟩ = s.watchers.lookup ⟨workflowId, id⟩

/-- Not the insertion of a publisher that passed the test before the seal, nor a watch under an
explicit workflow that is not governed. -/
def Event.KeepsSeal (sys : System) : Event → Prop
  | .call _ (.watch _ _ (some workflowId)) => sys.store.Governed workflowId
  | .proceed thread _ => ∀ artifact, sys.phases thread = .inserting artifact →
      ¬Insertable contentHash sys.store "" artifact
  | _ => True

def Admitted (sys : System) (e : Event) (sys' : System) : Prop :=
  ∀ workflowId id artifact, sys'.store.Governed workflowId →
    sys'.store.artifacts.lookup ⟨workflowId, id⟩ = some artifact →
    sys.store.Governed workflowId ∧
      (sys.store.artifacts.lookup ⟨workflowId, id⟩ = some artifact ∨
        ∃ thread capability, e = .call thread (.portPublish workflowId artifact capability true) ∧
          (sys.store.guards.lookup workflowId).map Prod.snd = some capability)

/-- What a read returns was not revoked in the store that it took its snapshot of, and is not
refused by its guard. -/
def Visible (sys : System) (e : Event) (sys' : System) : Prop :=
  ∀ artifacts, sys'.phases e.thread = .returned artifacts → ∀ artifact ∈ artifacts,
    ∃ thread guard found taken keys key, e = .proceed thread guard ∧
      sys.phases thread = .reading found taken keys ∧
      taken.artifacts.lookup key = some artifact ∧ key ∉ taken.revoked ∧
      (taken.Governed key.1 → guard key = true)

structure Invariant (sys : System) : Prop where
  unnamed : ¬sys.store.Governed ""
  owned : ∀ workflowId id artifact,
    sys.store.artifacts.lookup ⟨workflowId, id⟩ = some artifact →
      workflowId = "" ∨ sys.store.Governed workflowId
  found : ∀ thread key artifact, sys.phases thread = .found key artifact →
    sys.store.artifacts.lookup key = some artifact
  reading : ∀ thread artifact taken keys,
    sys.phases thread = .reading (some artifact) taken keys →
      ∃ key, keys = [key] ∧ taken.artifacts.lookup key = some artifact

variable {contentHash} {sys : System} {e : Event} {s : Store} {d : Delta} {workflowId : String}
  {key : Key} {artifact : Artifact}

theorem governed_apply
    : (s.apply d).Governed workflowId ↔
      s.Governed workflowId ∨ ∃ sealId, d = .bind workflowId sealId := by
  cases d with
  | bind w sealId =>
    simp only [Store.apply, Store.Governed, lookup_set, Delta.bind.injEq]
    by_cases h : workflowId = w
    . simp [h]
    . simp [h, Ne.symm h]
  | none | insert _ _ | revoke _ _ | watch _ _ _ =>
    simp [Store.apply, Store.Governed, Store.insertion]

theorem lookup_apply (h : (s.apply d).artifacts.lookup key = some artifact)
    : s.artifacts.lookup key = some artifact ∨
      ∃ workflowId, d = .insert workflowId artifact ∧ key = ⟨workflowId, artifact.artifactId⟩ := by
  cases d with
  | insert workflowId a =>
    simp only [Store.apply, Store.insertion, lookup_set] at h
    split at h
    . next hkey =>
      cases h
      exact .inr ⟨workflowId, rfl, hkey⟩
    . exact .inl h
  | none | bind _ _ | revoke _ _ | watch _ _ _ => exact .inl h

theorem lookup_apply_of_lookup
    (hfits : d.Fits contentHash s) (h : s.artifacts.lookup key = some artifact)
    : (s.apply d).artifacts.lookup key = some artifact := by
  cases d with
  | insert workflowId a =>
    simp only [Store.apply, Store.insertion, lookup_set]
    split
    . next hkey =>
      rw [hkey, hfits.1] at h
      cases h
    . exact h
  | none | bind _ _ | revoke _ _ | watch _ _ _ => exact h

theorem ne_of_bind (h : Does sys e (.bind workflowId sealId))
    (hnamed : e.Named) : workflowId ≠ "" := by
  cases h
  exact hnamed

theorem insert_ways (h : Does sys e (.insert workflowId artifact)) (hnamed : e.Named)
    : workflowId = "" ∨
      ∃ thread capability, e = .call thread (.portPublish workflowId artifact capability true) ∧
        (sys.store.guards.lookup workflowId).map Prod.snd = some capability := by
  cases h with
  | publish => exact .inl rfl
  | portPublish hallowed =>
    obtain ⟨hcapable, rfl⟩ := hallowed hnamed
    exact .inr ⟨_, _, rfl, hcapable⟩

theorem governed_of_capability
    (h : (s.guards.lookup workflowId).map Prod.snd = some capability) : s.Governed workflowId := by
  obtain ⟨_, hentry, -⟩ := Option.map_eq_some_iff.mp h
  rw [Store.Governed, hentry]
  rfl

theorem phase_of_update (h : Function.update sys.phases e.thread phase thread = p)
    : sys.phases thread = p ∨ phase = p := by
  by_cases hthread : thread = e.thread
  . rw [hthread, Function.update_self] at h
    exact .inr h
  . rw [Function.update_of_ne hthread] at h
    exact .inl h

theorem Invariant.step (h : Invariant sys) (hnamed : e.Named)
    : Invariant (sys.step contentHash e) := by
  obtain ⟨_, _, hdoes, hfits, henters, hstep⟩ := step_does contentHash sys e
  rw [hstep]
  constructor
  . intro hgoverned
    rcases governed_apply.mp hgoverned with hgoverned | ⟨sealId, rfl⟩
    . exact h.unnamed hgoverned
    . exact ne_of_bind hdoes hnamed rfl
  . intro workflowId id artifact hlook
    rcases lookup_apply hlook with hlook | ⟨w, rfl, hkey⟩
    . exact (h.owned _ _ _ hlook).imp_right fun hw => governed_apply.mpr (.inl hw)
    . obtain ⟨rfl, -⟩ := Key.mk.inj hkey
      rcases insert_ways hdoes hnamed with hempty | ⟨_, _, -, hcapable⟩
      . exact .inl hempty
      . exact .inr (governed_apply.mpr (.inl (governed_of_capability hcapable)))
  . intro thread key artifact hphase
    apply lookup_apply_of_lookup hfits
    rcases phase_of_update hphase with hphase | rfl
    . exact h.found thread key artifact hphase
    . cases henters with
      | found hlook => exact hlook
  . intro thread artifact taken keys hphase
    rcases phase_of_update hphase with hphase | rfl
    . exact h.reading thread artifact taken keys hphase
    . cases henters with
      | check hfound => exact ⟨_, rfl, h.found _ _ _ hfound⟩

theorem Reaches.invariant (h : Reaches contentHash sys) : Invariant sys := by
  induction h with
  | initial =>
    refine ⟨by decide, fun _ _ _ hlook => ?_, fun _ _ _ hphase => ?_, fun _ _ _ _ hphase => ?_⟩
    . cases hlook
    . cases hphase
    . cases hphase
  | step _ hnamed ih => exact ih.step hnamed

theorem Invariant.admitted (h : Invariant sys) (hnamed : e.Named)
    : Admitted sys e (sys.step contentHash e) := by
  intro workflowId id artifact hgoverned hlook
  obtain ⟨_, _, hdoes, -, -, hstep⟩ := step_does contentHash sys e
  rw [hstep] at hgoverned hlook
  have hnonempty : workflowId ≠ "" := by
    rintro rfl
    rcases governed_apply.mp hgoverned with hgoverned | ⟨sealId, rfl⟩
    . exact h.unnamed hgoverned
    . exact ne_of_bind hdoes hnamed rfl
  rcases lookup_apply hlook with hlook | ⟨w, rfl, hkey⟩
  . exact ⟨(h.owned _ _ _ hlook).resolve_left hnonempty, .inl hlook⟩
  . obtain ⟨rfl, -⟩ := Key.mk.inj hkey
    obtain ⟨thread, capability, he, hcapable⟩ :=
      (insert_ways hdoes hnamed).resolve_left hnonempty
    exact ⟨governed_of_capability hcapable, .inr ⟨thread, capability, he, hcapable⟩⟩

theorem mem_resolveVisible {guard : Key → Bool} (h : (key, artifact) ∈ s.resolveVisible keys guard)
    : key ∈ keys ∧ s.artifacts.lookup key = some artifact ∧ key ∉ s.revoked ∧
      (s.Governed key.1 → guard key) := by
  simp only [Store.resolveVisible, Store.visibilitySnapshot, List.mem_filter, List.mem_filterMap]
    at h
  obtain ⟨⟨k, hk, hentry⟩, hguard⟩ := h
  split at hentry
  . cases hentry
  . next hrevoked =>
    obtain ⟨_, hlook, heq⟩ := Option.map_eq_some_iff.mp hentry
    cases heq
    refine ⟨hk, hlook, hrevoked, fun hgoverned => ?_⟩
    simpa [hgoverned] using hguard

theorem Invariant.visible (h : Invariant sys) : Visible sys e (sys.step contentHash e) := by
  intro arts hreturned artifact hart
  obtain ⟨_, _, -, -, henters, hstep⟩ := step_does contentHash sys e
  rw [hstep] at hreturned
  simp only [Function.update_self] at hreturned
  subst hreturned
  cases henters with
  | nothing => cases hart
  | all hphase he =>
    obtain ⟨⟨key, a⟩, hentry, rfl⟩ := List.mem_map.mp hart
    exact ⟨_, _, _, _, _, key, he, hphase, (mem_resolveVisible hentry).2⟩
  | one hphase hvisible he =>
    obtain rfl := List.mem_singleton.mp hart
    obtain ⟨key, rfl, hlook⟩ := h.reading _ _ _ _ hphase
    obtain ⟨⟨k, a⟩, hentry⟩ := List.exists_mem_of_ne_nil _ hvisible
    obtain ⟨hk, -, hrest⟩ := mem_resolveVisible hentry
    obtain rfl := List.mem_singleton.mp hk
    exact ⟨_, _, _, _, _, k, he, hphase, hlook, hrest⟩

theorem untouched_apply (h : ∀ workflowId id, ¬s.Governed workflowId →
      (∀ artifact, d ≠ .insert workflowId artifact) ∧ d ≠ .revoke workflowId id ∧
      ∀ callback, d ≠ .watch workflowId id callback) : Untouched s (s.apply d) := by
  intro workflowId hfree id
  obtain ⟨hins, hrevoke, hwatch⟩ := h workflowId id hfree
  cases d with
  | none | bind _ _ => exact ⟨rfl, Iff.rfl, rfl⟩
  | insert w artifact =>
    refine ⟨?_, Iff.rfl, rfl⟩
    rw [Store.apply, Store.insertion, lookup_set, if_neg]
    rintro heq
    obtain ⟨rfl, -⟩ := Key.mk.inj heq
    exact hins artifact rfl
  | revoke w artifactId =>
    refine ⟨rfl, ?_, rfl⟩
    rw [Store.apply, List.mem_cons, or_iff_right]
    rintro heq
    obtain ⟨rfl, rfl⟩ := Key.mk.inj heq
    exact hrevoke rfl
  | watch w key callback =>
    refine ⟨rfl, Iff.rfl, ?_⟩
    rw [Store.apply, Store.append, lookup_set, if_neg]
    rintro heq
    obtain ⟨rfl, rfl⟩ := Key.mk.inj heq
    exact hwatch callback rfl

theorem untouched_of_keepsSeal (hnamed : e.Named)
    (hsealed : sys.store.guards ≠ []) (hkeeps : e.KeepsSeal contentHash sys)
    : Untouched sys.store (sys.step contentHash e).store := by
  obtain ⟨d, _, hdoes, hfits, -, hstep⟩ := step_does contentHash sys e
  rw [hstep]
  apply untouched_apply
  intro workflowId id hfree
  refine ⟨?_, ?_, ?_⟩
  . rintro artifact rfl
    cases hdoes with
    | publish hphase => exact hkeeps _ hphase hfits
    | portPublish hallowed => exact hfree (governed_of_capability (hallowed hnamed).1)
  . rintro rfl
    cases hdoes with
    | revoke hopen => exact hsealed hopen
    | portRevoke hcapable => exact hfree (governed_of_capability hcapable)
  . rintro callback rfl
    generalize hd : Delta.watch workflowId id callback = d at hdoes
    cases hdoes <;> cases hd
    next workflow hopen =>
      cases workflow with
      | none => exact hsealed (hopen rfl)
      | some w => exact hfree hkeeps

theorem Invariant.keepsSeal (h : Invariant sys)
    (huntouched : Untouched sys.store (sys.step contentHash e).store)
    : e.KeepsSeal contentHash sys := by
  cases e with
  | proceed thread guard =>
    intro artifact hphase hinsertable
    have hins := insert_eq_ok.mpr ⟨hinsertable, rfl, rfl⟩
    have hsame := (huntouched "" h.unnamed artifact.artifactId).1
    simp [System.step, Artifacts.proceed, hphase, hins, System.after, Store.insertion,
      lookup_set, hinsertable.1] at hsame
  | call thread call =>
    cases call with
    | watch key callback workflowId =>
      cases workflowId with
      | none => trivial
      | some w =>
        by_contra hfree
        have hsame : ((Store.append ⟨w, key⟩ callback sys.store.watchers).lookup ⟨w, key⟩)
            = sys.store.watchers.lookup ⟨w, key⟩ := (huntouched w hfree key).2.2
        rw [Store.append, lookup_set, if_pos rfl] at hsame
        rw [← hsame, Option.getD_some] at hsame
        simp at hsame
    | _ => trivial

/-- Once a workflow is governed, a step leaves what is outside the governed workflows as it is,
exactly when it is neither the insertion of a publisher that was past the test of the seal nor a
watch under an explicit ungoverned workflow; no thread passes that test any more. What is in a
governed workflow came through its own port, and reads return what they may. -/
theorem store_sealed_iff (h : Reaches contentHash sys) (hnamed : e.Named)
    : (sys.store.guards ≠ [] →
        (Untouched sys.store (sys.step contentHash e).store ↔ e.KeepsSeal contentHash sys) ∧
        ∀ thread artifact, (sys.step contentHash e).phases thread = .inserting artifact →
          sys.phases thread = .inserting artifact) ∧
      Admitted sys e (sys.step contentHash e) ∧ Visible sys e (sys.step contentHash e) ∧
      (∀ key ∈ sys.store.revoked, key ∈ (sys.step contentHash e).store.revoked) ∧
      ∀ thread found taken keys,
        (sys.step contentHash e).phases thread = .reading found taken keys →
        sys.phases thread = .reading found taken keys ∨ taken = sys.store := by
  have hinv := h.invariant
  refine ⟨fun hsealed => ⟨⟨hinv.keepsSeal, untouched_of_keepsSeal hnamed hsealed⟩, ?_⟩,
    hinv.admitted hnamed, hinv.visible, ?_, ?_⟩
  all_goals obtain ⟨d, _, -, -, henters, hstep⟩ := step_does contentHash sys e
  . intro thread artifact hphase
    rw [hstep] at hphase
    rcases phase_of_update hphase with hphase | rfl
    . exact hphase
    . cases henters with
      | inserting hopen => exact absurd hopen hsealed
  . intro key hkey
    rw [hstep]
    cases d with
    | revoke w id => exact List.mem_cons_of_mem _ hkey
    | none | bind _ _ | insert _ _ | watch _ _ _ => exact hkey
  . intro thread found taken keys hphase
    rw [hstep] at hphase
    rcases phase_of_update hphase with hphase | rfl
    . exact .inl hphase
    . cases henters with
      | scan | check => exact .inr rfl

def KeepsSealAll (contentHash : Artifact → Option String) : System → List Event → Prop
  | _, [] => True
  | sys, e :: es => e.Named ∧ e.KeepsSeal contentHash sys ∧
    KeepsSealAll contentHash (sys.step contentHash e) es

/-- A run from a sealed store leaves alone what is not governed at its end. -/
theorem untouched_run {governed : String} (hsealed : sys.store.Governed governed)
    (h : KeepsSealAll contentHash sys es) {workflowId : String}
    (hfree : ¬(es.foldl (System.step contentHash) sys).store.Governed workflowId) (id : String)
    : let s' := (es.foldl (System.step contentHash) sys).store
      s'.artifacts.lookup ⟨workflowId, id⟩ = sys.store.artifacts.lookup ⟨workflowId, id⟩ ∧
      (⟨workflowId, id⟩ ∈ s'.revoked ↔ ⟨workflowId, id⟩ ∈ sys.store.revoked) ∧
      s'.watchers.lookup ⟨workflowId, id⟩ = sys.store.watchers.lookup ⟨workflowId, id⟩ ∧
      ¬sys.store.Governed workflowId := by
  induction es generalizing sys with
  | nil => exact ⟨rfl, Iff.rfl, rfl, hfree⟩
  | cons e es ih =>
    obtain ⟨hnamed, hkeeps, hrest⟩ := h
    have hgoverned {w : String} (hw : sys.store.Governed w)
        : (sys.step contentHash e).store.Governed w := by
      obtain ⟨d, _, -, -, -, hstep⟩ := step_does contentHash sys e
      rw [hstep]
      exact governed_apply.mpr (.inl hw)
    obtain ⟨hartifact, hrevoked, hwatch, hstill⟩ := ih (hgoverned hsealed) hrest hfree
    have hbefore : ¬sys.store.Governed workflowId := fun hw => hstill (hgoverned hw)
    have hguards : sys.store.guards ≠ [] := by
      rintro hempty
      simp [Store.Governed, hempty] at hsealed
    obtain ⟨hartifact', hrevoked', hwatch'⟩ :=
      untouched_of_keepsSeal hnamed hguards hkeeps workflowId hbefore id
    exact ⟨hartifact.trans hartifact', hrevoked.trans hrevoked', hwatch.trans hwatch', hbefore⟩

end Runs

namespace Sample

def artifact : Artifact := ⟨"artifact", "task", "agent", "domain", .none⟩

def contentHash (_ : Artifact) : Option String := some "digest"

def raced : System :=
  (System.initial.step contentHash (.call 0 (.publishDeferred artifact))).step contentHash
    (.call 1 (.bindGoverned "workflow" "seal"))

/-- The publisher then adds its artifact to the sealed store. -/
theorem store_sealed_too_late
    : raced.store.guards ≠ [] ∧ ¬raced.store.Governed "" ∧
      raced.store.artifacts.lookup ⟨"", "artifact"⟩ = none ∧
      (raced.step contentHash (.proceed 0 fun _ => true)).store.artifacts.lookup ⟨"", "artifact"⟩ =
      some artifact := by
  refine ⟨?_, ?_, rfl, rfl⟩
  . decide
  . decide

theorem reaches_raced : Reaches contentHash raced := by
  apply Reaches.step
  . exact Reaches.initial.step trivial
  . exact (by decide : "workflow" ≠ "")

theorem store_sealed_iff_raced
    : raced.phases 0 = .inserting artifact ∧
      ¬Untouched raced.store (raced.step contentHash (.proceed 0 fun _ => true)).store := by
  refine ⟨rfl, fun huntouched => ?_⟩
  have hnamed : (Event.proceed 0 fun _ => true).Named := trivial
  have hkeeps := ((store_sealed_iff reaches_raced hnamed).1 (by decide)).1.mp huntouched
  exact hkeeps artifact rfl ⟨rfl, rfl⟩

end Sample

end Artifacts
