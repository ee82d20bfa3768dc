import ConstitutionalSwarm.Mesh.Settleability

namespace Mesh

open Raising

variable [Platform]

inductive RegistryCall where
  | register (voterId : String) (key : KeyInput) (roles : List String)
  | replace (voterId : String) (key : KeyInput) (roles : List String)
  | unregister (voterId : String)

def Registry.call (r : Registry) : RegistryCall → Py Registry
  | .register voterId key roles => do r.register voterId (← publicKeyFrom key) roles
  | .replace voterId key roles => do r.replace voterId (← publicKeyFrom key) roles
  | .unregister voterId => r.unregister voterId

structure Keyed where
  state : State
  publicKeys : List (String × PublicKey)

inductive EnrollmentCall where
  | registerRemoteAgent (agentId : String) (key : KeyInput)
  | registerLocalSigner (agentId : String) (key : PrivateKey)
  | unregisterAgent (agentId : String)

def EnrollmentCall.agentId : EnrollmentCall → String
  | .registerRemoteAgent agentId _ | .registerLocalSigner agentId _ | .unregisterAgent agentId =>
    agentId

section Calls

variable (c : Config) (m : Keyed)

def enroll (call : EnrollmentCall) : Py Keyed := do
  let name ← normalizeAgentId c call.agentId
  match call with
  | .registerRemoteAgent agentId key =>
    let state ← registerRemoteAgent c m.state agentId key
    return ⟨state, Assoc.set name (← publicKeyFrom key) m.publicKeys⟩
  | .registerLocalSigner agentId key =>
    let state ← registerLocalSigner c m.state agentId key
    return ⟨state, Assoc.set name (Platform.publicKey key) m.publicKeys⟩
  | .unregisterAgent agentId =>
    return ⟨← unregisterAgent c m.state agentId, Assoc.erase name m.publicKeys⟩

def create (store : SettlementStore) : Py Keyed := do
  let registry ← Registry.empty.register c.assignerId (Platform.publicKey c.assignerKey)
    ["assigner"]
  return ⟨⟨registry, [], [], [], 0, [], [], [], [], [], false, store⟩, []⟩

structure InStep : Prop where
  voting : ∀ name, name ∈ m.state.agents ↔
    ∃ grant, m.state.registry.identities.lookup name = some grant ∧
      ¬Disjoint grant.roles votingRoles
  keys : ∀ name ∈ m.state.agents,
    m.publicKeys.lookup name = (m.state.registry.identities.lookup name).map Grant.key
  assigner : ∃ grant, m.state.registry.identities.lookup c.assignerId = some grant ∧
    grant.key = Platform.publicKey c.assignerKey ∧ grant.roles = {"assigner"}

end Calls

namespace Registry

variable {r r' : Registry} {grant grant' : Grant}

theorem Sound.register (h : r.Sound) (hok : r.register voterId key roles = .ok r')
    : ∃ cand, candidateGrant voterId key roles = .ok cand ∧ r.Admissible cand ∧
      r.rotate cand = r' := by
  simp only [Registry.register, bind_eq_ok, exists_unit, requireOwner_eq_ok,
    h.validateCandidate_eq_ok, raiseIf_eq_ok, pure_inj] at hok
  obtain ⟨cand, hcand, hold, howner, ⟨hvalid, hkey⟩, rfl⟩ := hok
  refine ⟨cand, hcand, ⟨hvalid, hkey, howner⟩, ?_⟩
  cases hlook : r.identities.lookup cand.identity with
  | none => simp [Registry.rotate, hlook]
  | some old =>
    simp only [hlook, Option.any_some, Bool.or_eq_false_iff, decide_eq_false_iff_not,
      not_not] at hold
    simp [Registry.rotate, hlook, hold.1]

theorem Sound.call (h : r.Sound) {call} (hok : r.call call = .ok r')
    : r'.Sound := by
  cases call with
  | register voterId key roles =>
    obtain ⟨_, -, hok⟩ := bind_eq_ok.mp hok
    obtain ⟨_, -, hadmissible, rfl⟩ := h.register hok
    exact h.rotate hadmissible
  | replace voterId key roles =>
    obtain ⟨_, -, hok⟩ := bind_eq_ok.mp hok
    exact h.replace hok
  | unregister voterId => exact (h.unregister hok).1

theorem Sound.separated (h : r.Sound) (hgrant : grant ∈ r.grants) (hgrant' : grant' ∈ r.grants)
    (hsame : grant.identity = grant'.identity ∨ grant.key = grant'.key)
    (hassigner : "assigner" ∈ grant.roles) : Disjoint grant'.roles votingRoles := by
  rw [h.mem_grants] at hgrant hgrant'
  have hname : grant.identity = grant'.identity :=
    hsame.elim id (h.keys _ _ _ _ hgrant hgrant')
  rw [hname, hgrant', Option.some.injEq] at hgrant
  subst hgrant
  exact (h.grants _ _ hgrant').2.exclusive hassigner

end Registry

omit [Platform] in
theorem mem_addAgent
    : name ∈ addAgent agents agentId ↔ name = agentId ∨ name ∈ agents := by
  rw [addAgent]
  split
  . next h => exact ⟨.inr, fun hname => hname.elim (· ▸ h) id⟩
  . simp [or_comm]

variable {c : Config} {m m' : Keyed}

theorem normalizeAgentId_eq_ok
    : normalizeAgentId c agentId = .ok name ↔
      normalizeVoterId agentId = .ok name ∧ name ≠ c.assignerId := by
  simp only [normalizeAgentId, bind_eq_ok, exists_unit, raiseIf_eq_ok, decide_eq_false_iff_not,
    pure_inj]
  constructor
  . rintro ⟨_, hname, hne, rfl⟩
    exact ⟨hname, hne⟩
  . rintro ⟨hname, hne⟩
    exact ⟨name, hname, hne, rfl⟩

theorem InStep.added [Platform.Lawful] (h : InStep c m)
    (hne : name ≠ c.assignerId) (hagents : m'.state.agents = addAgent m.state.agents name)
    (hkeys : m'.publicKeys = Assoc.set name key m.publicKeys)
    (hreg : m'.state.registry = m.state.registry.rotate (agentGrant name key))
    : InStep c m' := by
  have hlook (other : String) : m'.state.registry.identities.lookup other =
      if other = name then some (agentGrant name key)
      else m.state.registry.identities.lookup other := by
    rw [hreg, Registry.lookup_rotate]
    rfl
  have hvoting : ¬Disjoint (agentGrant name key).roles votingRoles := by
    rw [agentGrant_roles]
    decide
  refine ⟨fun other => ?_, fun other hother => ?_, ?_⟩
  . rw [hagents, mem_addAgent, hlook, h.voting]
    split
    . next heq => simp [heq, hvoting]
    . next heq => simp [heq]
  . rw [hagents, mem_addAgent] at hother
    rw [hkeys, Assoc.lookup_set, hlook]
    split
    . rfl
    . next heq => exact h.keys _ (hother.resolve_left heq)
  . rw [hlook, if_neg hne.symm]
    exact h.assigner

theorem InStep.removed (h : InStep c m) (hne : name ≠ c.assignerId)
    (hagents : m'.state.agents = m.state.agents.filter (· ≠ name))
    (hkeys : m'.publicKeys = Assoc.erase name m.publicKeys)
    (hlook : ∀ other, m'.state.registry.identities.lookup other =
      if other = name then none else m.state.registry.identities.lookup other)
    : InStep c m' := by
  refine ⟨fun other => ?_, fun other hother => ?_, ?_⟩
  . rw [hagents, List.mem_filter, decide_eq_true_eq, hlook, h.voting]
    split
    . next heq => simp [heq]
    . next heq => simp [heq]
  . rw [hagents, List.mem_filter, decide_eq_true_eq] at hother
    rw [hkeys, Assoc.lookup_erase, if_neg hother.2, hlook, if_neg hother.2]
    exact h.keys _ hother.1
  . rw [hlook, if_neg hne.symm]
    exact h.assigner

def EnrollmentCall.Stable (call : EnrollmentCall) : Prop :=
  ∀ name, normalizeVoterId call.agentId = .ok name → IsIdentity name

variable {r : Registry}

theorem replace_agentRoles (h : r.Sound) (hname : IsIdentity name)
    (hok : r.replace name key agentRoles = .ok r')
    : r.rotate (agentGrant name key) = r' := by
  obtain ⟨_, hcand, -, rfl⟩ := h.replace_eq_ok.mp hok
  obtain ⟨-, _, hident, rfl⟩ := Registry.candidateGrant_eq_ok.mp hcand
  obtain rfl := Except.ok.inj (hname.symm.trans hident)
  rfl

variable [Platform.Lawful]

theorem InStep.enroll (hsound : m.state.registry.Sound) (h : InStep c m)
    (hstable : call.Stable) (hok : enroll c m call = .ok m')
    : m'.state.registry.Sound ∧ InStep c m' := by
  obtain ⟨name, hagent, hok⟩ := bind_eq_ok.mp hok
  obtain ⟨hnormal, hne⟩ := normalizeAgentId_eq_ok.mp hagent
  have hname := hstable name hnormal
  cases call with
  | registerRemoteAgent agentId key =>
    simp only [registerRemoteAgent, show normalizeAgentId c agentId = _ from hagent, ok_bind,
      bind_eq_ok, pure_inj] at hok
    obtain ⟨_, ⟨key, hkey, registry, hreplace, rfl⟩, _, hkey', rfl⟩ := hok
    obtain rfl := Except.ok.inj (hkey.symm.trans hkey')
    exact ⟨hsound.replace hreplace, h.added hne rfl rfl
      (replace_agentRoles hsound hname hreplace).symm⟩
  | registerLocalSigner agentId key =>
    simp only [registerLocalSigner, show normalizeAgentId c agentId = _ from hagent, ok_bind,
      bind_eq_ok, pure_inj] at hok
    obtain ⟨_, ⟨registry, hreplace, rfl⟩, rfl⟩ := hok
    exact ⟨hsound.replace hreplace, h.added hne rfl rfl
      (replace_agentRoles hsound hname hreplace).symm⟩
  | unregisterAgent agentId =>
    simp only [unregisterAgent, show normalizeAgentId c agentId = _ from hagent, ok_bind,
      bind_eq_ok, pure_inj] at hok
    obtain ⟨_, ⟨registry, hunregister, rfl⟩, rfl⟩ := hok
    obtain ⟨hsound', _, hident, hlook⟩ := hsound.unregister hunregister
    obtain rfl := Except.ok.inj (hname.symm.trans hident)
    exact ⟨hsound', h.removed hne rfl rfl hlook⟩

theorem InStep.create (hassigner : IsIdentity c.assignerId)
    (hcreate : create c store = .ok m) : m.state.registry.Sound ∧ InStep c m := by
  simp only [Mesh.create, bind_eq_ok, pure_inj] at hcreate
  obtain ⟨_, hregister, rfl⟩ := hcreate
  obtain ⟨_, hcand, hadmissible, hreg⟩ := Registry.sound_empty.register hregister
  obtain ⟨-, _, hident, rfl⟩ := Registry.candidateGrant_eq_ok.mp hcand
  obtain rfl := Except.ok.inj (hassigner.symm.trans hident)
  have hroles : (Registry.grantOf c.assignerId (Platform.publicKey c.assignerKey)
      ["assigner"]).roles = {"assigner"} := by
    rw [Registry.grantOf, List.map_singleton, normalizeRole_plain (by decide)]
    rfl
  have hlook := Registry.lookup_rotate (r := .empty)
    (Registry.grantOf c.assignerId (Platform.publicKey c.assignerKey) ["assigner"])
  rw [hreg] at hlook
  refine ⟨hreg ▸ Registry.sound_empty.rotate hadmissible, fun name => ?_, ?_, ?_⟩
  . rw [hlook]
    refine iff_of_false (by simp) ?_
    rintro ⟨grant, hgrant, hvoting⟩
    split at hgrant
    . cases hgrant
      rw [hroles] at hvoting
      exact hvoting (by decide)
    . cases hgrant
  . simp
  . exact ⟨_, (hlook _).trans (if_pos rfl), rfl, hroles⟩

theorem registry_in_step (hassigner : IsIdentity c.assignerId) {store : SettlementStore}
    (hcreate : create c store = .ok m)
    (hrun : Transition.Run (enroll c) (fun _ call => call.Stable) m m')
    (hcalls : Transition.Run Registry.call (fun _ _ => True) .empty r)
    : InStep c m' ∧ r.validateTrustRoot = .ok () ∧
      (∀ keyId name, r.keys.lookup keyId = some name ↔
        ∃ grant, r.identities.lookup name = some grant ∧ grant.keyId = keyId) ∧
      ∀ grant ∈ r.grants, ∀ grant' ∈ r.grants,
        grant.identity = grant'.identity ∨ grant.key = grant'.key →
        "assigner" ∈ grant.roles → Disjoint grant'.roles votingRoles := by
  have hsound : r.Sound :=
    hcalls.invariant (fun _ _ _ _ hok h => h.call hok) Registry.sound_empty
  have hinStep := hrun.invariant (p := fun m => m.state.registry.Sound ∧ InStep c m)
    (fun _ _ _ hstable hok h => h.2.enroll h.1 hstable hok) (InStep.create hassigner hcreate)
  exact ⟨hinStep.2, hsound.validateTrustRoot, hsound.owners,
    fun _ hgrant _ hgrant' => hsound.separated hgrant hgrant'⟩

end Mesh

namespace Mesh.Sample

open Raising

theorem registry_in_step_one
    : ∃ m m', create config ⟨.jsonl, [], [], []⟩ = .ok m ∧
      enroll config m (.registerLocalSigner "p" (privateKey 2)) = .ok m' ∧ InStep config m' := by
  have hmap : (create config ⟨.jsonl, [], [], []⟩ >>=
      (enroll config · (.registerLocalSigner "p" (privateKey 2)))).map (·.state.agents)
      = .ok ["p"] := by
    decide +kernel
  obtain ⟨m', hm', -⟩ := Except.map_eq_ok.mp hmap
  obtain ⟨m, hcreate, hm'⟩ := bind_eq_ok.mp hm'
  refine ⟨m, m', hcreate, hm', (registry_in_step (isIdentity_of_ne (by decide)) hcreate
    ((Transition.Run.refl _).tail ?_ hm') (.refl _)).1⟩
  intro name hname
  obtain rfl := Except.ok.inj ((normalizeVoterId_eq (by decide)).symm.trans hname)
  exact isIdentity_of_ne (by decide)

end Mesh.Sample

namespace Mesh.Composed

open Raising

scoped instance platform : Platform :=
  { Sample.platform with
    nfkc := fun value => if value = "a\u0301" then "\u00e1" else value
    isFormat := fun c => c = '\u200d' }

def config : Config :=
  ⟨"c", 3, 3, .independent, "m", "m", Sample.privateKey 1, Sample.privateKey 9, false, 10, 10⟩

theorem joined_agent_unregistered
    : ∃ m m', create config ⟨.jsonl, [], [], []⟩ = .ok m ∧
      enroll config m (.registerLocalSigner "a\u200d\u0301" (Sample.privateKey 2)) = .ok m' ∧
      m'.state.agents = ["a\u0301"] ∧ m'.state.registry.identities.map Prod.fst = ["m", "\u00e1"] ∧
      ¬InStep config m' := by
  have hmap : (create config ⟨.jsonl, [], [], []⟩ >>=
      (enroll config · (.registerLocalSigner "a\u200d\u0301" (Sample.privateKey 2)))).map
        (fun m => (m.state.agents, m.state.registry.identities.map Prod.fst))
      = .ok (["a\u0301"], ["m", "\u00e1"]) := by
    decide +kernel
  obtain ⟨m', hm', hpair⟩ := Except.map_eq_ok.mp hmap
  obtain ⟨m, hcreate, hm'⟩ := bind_eq_ok.mp hm'
  obtain ⟨hagents, hnames⟩ := Prod.mk.inj hpair
  refine ⟨m, m', hcreate, hm', hagents, hnames, fun h => ?_⟩
  obtain ⟨_, hgrant, -⟩ := (h.voting "a\u0301").mp (by rw [hagents]; decide)
  have hmem := List.mem_map_of_mem (f := Prod.fst) (Assoc.mem_of_lookup hgrant)
  rw [hnames] at hmem
  revert hmem
  simp

end Mesh.Composed
