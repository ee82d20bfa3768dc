import ConstitutionalSwarm.Apcc.Failure
import ConstitutionalSwarm.Data.Assoc
import Mathlib.Algebra.BigOperators.Ring.List
import Mathlib.Algebra.Order.BigOperators.Group.List
import Mathlib.Data.List.Dedup
import Mathlib.Data.List.Induction
import Mathlib.Tactic.Linarith
import Mathlib.Tactic.Ring

namespace Debate

open List Raising

inductive VerdictOutcome where
  | approved
  | rejected
  | escalated
  | deadlock
  deriving DecidableEq

inductive DebateRole where
  | proposer
  | challenger
  | defender
  deriving DecidableEq

def autoChallengerId : String :=
  "auto-challenger"

def minSeverity : ℚ :=
  1 / 20

def maxDefensesPerDefender : ℕ :=
  3

def defenseResponseCredit : ℚ :=
  3 / 20

structure Challenge where
  challengerId : String
  severity : ℚ
  severity_mem : minSeverity ≤ severity ∧ severity ≤ 1

theorem Challenge.severity_nonneg (c : Challenge) : 0 ≤ c.severity :=
  le_trans (by decide +kernel) c.severity_mem.1

structure Defense where
  defenderId : String
  concession : String

structure FinalVerdict where
  outcome : VerdictOutcome
  approvalScore : ℚ
  reasoning : String

structure DebateRecord where
  proposerId : String
  challenges : List Challenge
  defenses : List Defense
  verdict : Option FinalVerdict

structure DebateResolver where
  approvalThreshold : ℚ
  minChallenges : ℕ
  escalationThreshold : ℚ
  constitutionalHash : String
  roles : List (String × List DebateRole)
  records : List (String × DebateRecord)
  minChallenges_pos : 1 ≤ minChallenges
  approval_mem : 0 ≤ approvalThreshold ∧ approvalThreshold ≤ 1
  escalation_mem : 0 ≤ escalationThreshold ∧ escalationThreshold ≤ 1

-- the texts that Python gives numbers and strings in messages
class Texts where
  repr : String → String
  str : ℚ → String
  fixed : ℕ → ℚ → String

namespace DebateResolver

variable (r : DebateResolver)

def hasRole (agentId : String) (role : DebateRole) : Bool :=
  (r.roles.lookup agentId).any (role ∈ ·)

def counted (record : DebateRecord) : List Challenge :=
  record.challenges.filter fun challenge =>
    challenge.challengerId ≠ record.proposerId && r.hasRole challenge.challengerId .challenger

def strengthen (severities : List (String × ℚ)) (challenge : Challenge) : List (String × ℚ) :=
  Assoc.set challenge.challengerId
    (max challenge.severity ((severities.lookup challenge.challengerId).getD 0)) severities

def severityByChallenger (record : DebateRecord) : List (String × ℚ) :=
  (r.counted record).foldl strengthen []

def maxSeverity (severities : List (String × ℚ)) : ℚ :=
  (severities.map Prod.snd).max?.getD 0

def avgSeverity (severities : List (String × ℚ)) : ℚ :=
  (severities.map Prod.snd).sum / severities.length

def score (severities : List (String × ℚ)) (defended : Bool) : ℚ :=
  let base := 1 / 2 - (severities.map fun e => e.2 * (3 / 10)).sum
  let credit := if defended then defenseResponseCredit * (1 - maxSeverity severities) else 0
  max 0 (min 1 (base + credit))

def outcome (severities : List (String × ℚ)) (defended : Bool) : VerdictOutcome :=
  if r.escalationThreshold ≤ avgSeverity severities then .escalated
  else if r.approvalThreshold ≤ score severities defended then .approved
  else .rejected

section Resolution

variable [Texts]

def openRecord (proposalId purpose : String) : Py DebateRecord :=
  match r.records.lookup proposalId with
  | none => .error (.keyError ("Proposal " ++ Texts.repr proposalId ++ " not found"))
  | some record => do
    raiseIf record.verdict.isSome (.runtimeError
      ("Proposal " ++ Texts.repr proposalId ++ " is already resolved; " ++ purpose))
    return record

def replaceRecord (proposalId : String) (record : DebateRecord) : DebateResolver :=
  { r with records := Assoc.set proposalId record r.records }

def propose (proposalId proposerId : String) : Py DebateResolver := do
  raiseIf (r.records.lookup proposalId).isSome
    (.valueError ("Proposal " ++ Texts.repr proposalId ++ " already exists"))
  return r.replaceRecord proposalId ⟨proposerId, [], [], none⟩

def challenge (proposalId challengerId : String) (severity : ℚ) : Py DebateResolver := do
  let record ← r.openRecord proposalId "cannot add challenges"
  raiseIf (challengerId = record.proposerId) (.permissionError
    ("Challenger " ++ Texts.repr challengerId ++ " is the proposer of " ++ Texts.repr proposalId))
  raiseIf (challengerId ≠ autoChallengerId && !r.hasRole challengerId .challenger) (.permissionError
    ("Challenger " ++ Texts.repr challengerId ++ " is not a registered challenger"))
  raiseIf (severity < 0 ∨ 1 < severity)
    (.valueError ("severity must be finite and in [0, 1], got " ++ Texts.str severity))
  if h : minSeverity ≤ severity ∧ severity ≤ 1 then
    return r.replaceRecord proposalId
      { record with challenges := record.challenges ++ [⟨challengerId, severity, h⟩] }
  else throw (.valueError
    ("severity must be >= " ++ Texts.str minSeverity ++ ", got " ++ Texts.str severity))

def defend (proposalId defenderId concession : String) : Py DebateResolver := do
  let record ← r.openRecord proposalId "cannot add defenses"
  raiseIf (defenderId ≠ record.proposerId && !r.hasRole defenderId .defender) (.permissionError
    ("Defender " ++ Texts.repr defenderId ++ " may not defend " ++ Texts.repr proposalId ++
      ": only the proposer or a registered defender may defend"))
  raiseIf (maxDefensesPerDefender ≤ record.defenses.countP (·.defenderId = defenderId))
    (.permissionError ("Defender " ++ Texts.repr defenderId ++ " has reached the defense limit (" ++
      toString maxDefensesPerDefender ++ ") for proposal " ++ Texts.repr proposalId))
  return r.replaceRecord proposalId
    { record with defenses := record.defenses ++ [⟨defenderId, concession⟩] }

def reasoning (record : DebateRecord) (severities : List (String × ℚ)) : String :=
  " ".intercalate ([
    "Challenges: " ++ toString record.challenges.length ++ " messages from " ++
      toString severities.length ++ " distinct registered challengers, avg strongest severity: " ++
      Texts.fixed 2 (avgSeverity severities) ++ ".",
    "Defenses: " ++ toString record.defenses.length ++ " messages from " ++
      toString (record.defenses.map (·.defenderId)).dedup.length ++ " distinct defenders.",
    "Approval score: " ++ Texts.fixed 3 (score severities !record.defenses.isEmpty) ++
      " (threshold: " ++ Texts.str r.approvalThreshold ++ ")."] ++
    match record.defenses.getLast? with
    | some defense =>
      if defense.concession = "" then [] else ["Proposer concession: " ++ defense.concession]
    | none => [])

def verdict (record : DebateRecord) : FinalVerdict :=
  let severities := r.severityByChallenger record
  if severities.length < r.minChallenges then
    ⟨.deadlock, 0, "Quorum not met: " ++ toString severities.length ++
      " distinct challengers, need " ++ toString r.minChallenges⟩
  else
    ⟨r.outcome severities !record.defenses.isEmpty, score severities !record.defenses.isEmpty,
      r.reasoning record severities⟩

def resolve (proposalId : String) (constitutionalHash : Option String)
    : Py (FinalVerdict × DebateResolver) := do
  let record ← r.openRecord proposalId "verdict is sealed"
  let effectiveHash := constitutionalHash.getD r.constitutionalHash
  raiseIf (effectiveHash ≠ r.constitutionalHash) (.permissionError
    ("Constitutional hash mismatch: expected " ++ Texts.repr r.constitutionalHash ++ ", got " ++
      Texts.repr effectiveHash))
  let verdict := r.verdict record
  return (verdict, r.replaceRecord proposalId { record with verdict := some verdict })

end Resolution

section Figures

structure Strongest (challenges : List Challenge) (severities : List (String × ℚ)) : Prop where
  unique : Assoc.Unique severities
  attained : ∀ id s, severities.lookup id = some s →
    ∃ c ∈ challenges, c.challengerId = id ∧ c.severity = s
  covers : ∀ c ∈ challenges, ∃ s, severities.lookup c.challengerId = some s ∧ c.severity ≤ s

theorem strongest (r : DebateResolver) (record : DebateRecord)
    : Strongest (r.counted record) (r.severityByChallenger record) := by
  rw [severityByChallenger]
  induction r.counted record using reverseRecOn with
  | nil => exact ⟨.nil, by simp, by simp⟩
  | append_singleton challenges c ih =>
    rw [foldl_append, foldl_cons, foldl_nil]
    generalize challenges.foldl strengthen [] = severities at ih
    refine ⟨ih.unique.set _ _, ?_, ?_⟩
    . intro id s hs
      rw [strengthen, Assoc.lookup_set] at hs
      split at hs
      . next hid =>
        cases hs
        subst hid
        cases hlook : severities.lookup c.challengerId with
        | none => exact ⟨c, by simp, rfl, (max_eq_left c.severity_nonneg).symm⟩
        | some s =>
          obtain ⟨c', hc', hid, hsame⟩ := ih.attained _ _ hlook
          rcases max_choice c.severity s with hmax | hmax
          . exact ⟨c, by simp, rfl, hmax.symm⟩
          . exact ⟨c', mem_append_left _ hc', hid, hsame.trans hmax.symm⟩
      . obtain ⟨c', hc', hsame⟩ := ih.attained _ _ hs
        exact ⟨c', mem_append_left _ hc', hsame⟩
    . intro c' hc'
      rw [strengthen, Assoc.lookup_set]
      rcases mem_append.mp hc' with hc' | hc'
      . obtain ⟨s, hs, hle⟩ := ih.covers c' hc'
        split
        . next hid =>
          rw [← hid, hs]
          exact ⟨_, rfl, le_max_of_le_right hle⟩
        . exact ⟨s, hs, hle⟩
      . obtain rfl := mem_singleton.mp hc'
        rw [if_pos rfl]
        exact ⟨_, rfl, le_max_left _ _⟩

theorem foldl_strengthen {challenges : List Challenge}
    (hnodup : (challenges.map (·.challengerId)).Nodup)
    : challenges.foldl strengthen [] = challenges.map fun c => (c.challengerId, c.severity) := by
  induction challenges using reverseRecOn with
  | nil => rfl
  | append_singleton challenges c ih =>
    obtain ⟨hfresh, hnodup⟩ := Assoc.nodup_map_concat.mp hnodup
    have hnone : (challenges.map fun c => (c.challengerId, c.severity)).lookup c.challengerId =
        none := Assoc.lookup_eq_none.mpr (by simpa using hfresh)
    rw [foldl_append, ih hnodup, foldl_cons, foldl_nil, strengthen, hnone,
      Assoc.set_of_lookup_none hnone, map_append, Option.getD_none, max_eq_left c.severity_nonneg]
    rfl

variable {d d' : List (String × ℚ)}

theorem sum_le (huniq : Assoc.Unique d) (h : ∀ e ∈ d, ∃ s, (e.1, s) ∈ d' ∧ e.2 ≤ s)
    (hmin : ∀ e ∈ d', minSeverity ≤ e.2)
    : d.length ≤ d'.length ∧
      (d.map Prod.snd).sum + (d'.length - d.length) * minSeverity ≤ (d'.map Prod.snd).sum := by
  induction d generalizing d' with
  | nil =>
    have hsum := card_nsmul_le_sum (d'.map Prod.snd) minSeverity (forall_mem_map.mpr hmin)
    simpa using hsum
  | cons e d ih =>
    obtain ⟨hfresh, huniq⟩ := Assoc.Unique.cons.mp huniq
    obtain ⟨⟨s, hs, hle⟩, h⟩ := forall_mem_cons.mp h
    have hperm := perm_cons_erase hs
    have hrest : ∀ e' ∈ d, ∃ s', (e'.1, s') ∈ d'.erase (e.1, s) ∧ e'.2 ≤ s' := by
      intro e' he'
      obtain ⟨s', hs', hle'⟩ := h e' he'
      refine ⟨s', (mem_erase_of_ne ?_).mpr hs', hle'⟩
      intro heq
      exact hfresh e' he' (Prod.mk.inj heq).1
    obtain ⟨hlen, hsum⟩ := ih huniq hrest fun e' he' => hmin e' (mem_of_mem_erase he')
    rw [hperm.length_eq, (hperm.map Prod.snd).sum_eq]
    simp only [length_cons, map_cons, sum_cons, Nat.cast_succ]
    exact ⟨Nat.succ_le_succ hlen, by linarith⟩

theorem maxSeverity_spec (hne : d ≠ [])
    : (∃ e ∈ d, e.2 = maxSeverity d) ∧ ∀ e ∈ d, e.2 ≤ maxSeverity d := by
  cases hmax : (d.map Prod.snd).max? with
  | none => simp [hne] at hmax
  | some s =>
    obtain ⟨hmem, hle⟩ := max?_eq_some_iff.mp hmax
    rw [maxSeverity, hmax]
    exact ⟨mem_map.mp hmem, fun e he => hle _ (mem_map_of_mem he)⟩

theorem score_eq (d : List (String × ℚ)) (defended : Bool)
    : score d defended = max 0 (min 1 (1 / 2 - (d.map Prod.snd).sum * (3 / 10) +
      if defended then defenseResponseCredit * (1 - maxSeverity d) else 0)) := by
  rw [score, sum_map_mul_right]

structure Weighs (d d' : List (String × ℚ)) : Prop where
  length : d.length ≤ d'.length
  sum : (d.map Prod.snd).sum + (d'.length - d.length) * minSeverity ≤ (d'.map Prod.snd).sum
  greatest : maxSeverity d ≤ maxSeverity d'

theorem Strongest.severity_mem (h : Strongest challenges d) (he : e ∈ d)
    : minSeverity ≤ e.2 ∧ e.2 ≤ 1 := by
  obtain ⟨c, -, -, hc⟩ := h.attained e.1 e.2 (h.unique.lookup_eq_some.mpr he)
  exact hc ▸ c.severity_mem

theorem Strongest.weighs (h : Strongest challenges d) (h' : Strongest challenges' d')
    (hle : ∀ id s, d.lookup id = some s → ∃ s', d'.lookup id = some s' ∧ s ≤ s') : Weighs d d' := by
  have hmem : ∀ e ∈ d, ∃ s, (e.1, s) ∈ d' ∧ e.2 ≤ s := by
    intro e he
    obtain ⟨s, hs, hes⟩ := hle e.1 e.2 (h.unique.lookup_eq_some.mpr he)
    exact ⟨s, h'.unique.lookup_eq_some.mp hs, hes⟩
  obtain ⟨hlen, hsum⟩ := sum_le h.unique hmem fun e he => (h'.severity_mem he).1
  refine ⟨hlen, hsum, ?_⟩
  by_cases hd : d = []
  . subst hd
    by_cases hd' : d' = []
    . rw [hd']
    . obtain ⟨⟨e, he, hmax⟩, -⟩ := maxSeverity_spec hd'
      exact hmax ▸ le_trans (by decide +kernel) (h'.severity_mem he).1
  . obtain ⟨⟨e, he, hmax⟩, -⟩ := maxSeverity_spec hd
    obtain ⟨s, hs, hes⟩ := hmem e he
    exact hmax ▸ hes.trans ((maxSeverity_spec (ne_nil_of_mem hs)).2 _ hs)

theorem Weighs.antisymm (h : Weighs d d') (h' : Weighs d' d)
    : d.length = d'.length ∧ (d.map Prod.snd).sum = (d'.map Prod.snd).sum ∧
      maxSeverity d = maxSeverity d' := by
  have hlen := le_antisymm h.length h'.length
  have hsum := h.sum
  have hsum' := h'.sum
  rw [hlen, sub_self, zero_mul, add_zero] at hsum hsum'
  exact ⟨hlen, le_antisymm hsum hsum', le_antisymm h.greatest h'.greatest⟩

theorem Weighs.score_le (h : Weighs d d') (defended : Bool)
    : score d' defended ≤ score d defended := by
  have hlen : (d.length : ℚ) ≤ d'.length := Nat.cast_le.mpr h.length
  have hsum : (d.map Prod.snd).sum ≤ (d'.map Prod.snd).sum := by
    have hextra := h.sum
    simp only [minSeverity] at hextra
    linarith
  have hmax := h.greatest
  rw [score_eq, score_eq]
  apply max_le_max_left
  apply min_le_min_left
  cases defended <;> simp only [Bool.false_eq_true, if_true, if_false, defenseResponseCredit] <;>
    linarith

theorem Strongest.bounds (h : Strongest challenges d) (hne : d ≠ [])
    : minSeverity ≤ avgSeverity d ∧ avgSeverity d ≤ maxSeverity d := by
  have hlen : (0 : ℚ) < d.length := Nat.cast_pos.mpr (length_pos_of_ne_nil hne)
  have hmin := card_nsmul_le_sum (d.map Prod.snd) minSeverity
    (forall_mem_map.mpr fun e he => (h.severity_mem he).1)
  have hmax := sum_le_card_nsmul (d.map Prod.snd) (maxSeverity d)
    (forall_mem_map.mpr (maxSeverity_spec hne).2)
  rw [length_map, nsmul_eq_mul] at hmin hmax
  rw [avgSeverity, le_div_iff₀ hlen, div_le_iff₀ hlen]
  exact ⟨by linarith, by linarith⟩

theorem Weighs.diluted (h : Weighs d d') (hd : Strongest challenges d)
    (hd' : Strongest challenges' d') (hcount : 0 < d.length) {thr : ℚ}
    (hthr : 0 ≤ thr ∧ thr ≤ 1) (hfst : thr ≤ avgSeverity d)
    (hsnd : avgSeverity d' < thr) (hq : n ≤ d.length) (defended : Bool)
    : d.length < d'.length ∧ minSeverity < thr ∧
      score d' defended ≤ max 0 (min 1 (127 / 200 - (3 / 10 * n + 3 / 20) * thr)) := by
  obtain ⟨hlen, hsum, hmax⟩ := h
  have hcount' := hcount.trans_le hlen
  have hgr := (hd.bounds (ne_nil_of_length_pos hcount)).2
  have hleast := (hd'.bounds (ne_nil_of_length_pos hcount')).1
  have hgt := hfst.trans (hgr.trans hmax)
  have hbelow := hleast.trans_lt hsnd
  rw [avgSeverity, le_div_iff₀ (Nat.cast_pos.mpr hcount)] at hfst
  rw [avgSeverity, div_lt_iff₀ (Nat.cast_pos.mpr hcount')] at hsnd
  have hmore : d.length < d'.length := by
    refine Nat.lt_of_le_of_ne hlen fun heq => ?_
    rw [heq, sub_self, zero_mul, add_zero] at hsum
    rw [heq] at hfst
    linarith
  refine ⟨hmore, hbelow, ?_⟩
  have hnew : (d.length + 1 : ℚ) ≤ d'.length := by exact_mod_cast hmore
  have hmul := mul_le_mul_of_nonneg_left (Nat.cast_le (α := ℚ).mpr hq) hthr.1
  simp only [minSeverity] at hsum
  rw [score_eq]
  apply max_le_max_left
  apply min_le_min_left
  cases defended <;> simp only [Bool.false_eq_true, if_true, if_false, defenseResponseCredit] <;>
    linarith

end Figures

section Opposition

variable (r : DebateResolver)

def challengers (proposerId : String) : List String :=
  ((r.roles.map Prod.fst).filter fun id => id ≠ proposerId && r.hasRole id .challenger).dedup

structure Opposes (first second : DebateRecord) : Prop where
  proposerId : first.proposerId = second.proposerId
  challenges : r.counted first ⊆ second.challenges
  defenses : first.defenses = second.defenses
  quorum : r.minChallenges ≤ (r.severityByChallenger first).length

def dilutedScore : ℚ :=
  max 0 (min 1 (127 / 200 - (3 / 10 * r.minChallenges + 3 / 20) * r.escalationThreshold))

variable {r} {first second : DebateRecord}

theorem mem_challengers {id}
    : id ∈ r.challengers proposerId ↔ id ≠ proposerId ∧ r.hasRole id .challenger := by
  simp only [challengers, mem_dedup, mem_filter, Bool.and_eq_true, decide_eq_true_eq,
    and_iff_right_iff_imp]
  rintro ⟨-, hrole⟩
  by_contra hnone
  rw [hasRole, Assoc.lookup_eq_none.mpr hnone] at hrole
  cases hrole

theorem length_severityByChallenger_le (r : DebateResolver) (record : DebateRecord)
    : (r.severityByChallenger record).length ≤ (r.challengers record.proposerId).length := by
  have h := r.strongest record
  have hsub : (r.severityByChallenger record).map Prod.fst ⊆ r.challengers record.proposerId := by
    intro id hid
    obtain ⟨e, he, rfl⟩ := mem_map.mp hid
    obtain ⟨_, hc, hid, -⟩ := h.attained e.1 e.2 (h.unique.lookup_eq_some.mpr he)
    rw [mem_challengers, ← hid]
    simpa using (mem_filter.mp hc).2
  simpa using (subperm_of_subset h.unique hsub).length_le

theorem Opposes.weighs (h : r.Opposes first second)
    : Weighs (r.severityByChallenger first) (r.severityByChallenger second) := by
  apply (r.strongest first).weighs (r.strongest second)
  intro id s hs
  obtain ⟨c, hc, rfl, rfl⟩ := (r.strongest first).attained id s hs
  have hcount := (mem_filter.mp hc).2
  rw [h.proposerId] at hcount
  exact (r.strongest second).covers c (mem_filter.mpr ⟨h.challenges hc, hcount⟩)

theorem severityByChallenger_of_nodup (hnodup : (first.challenges.map (·.challengerId)).Nodup)
    (hsub : first.challenges.map (·.challengerId) ⊆ r.challengers first.proposerId)
    : r.severityByChallenger first =
      first.challenges.map fun c => (c.challengerId, c.severity) := by
  rw [severityByChallenger, counted, filter_eq_self.mpr, foldl_strengthen hnodup]
  intro c hc
  simpa using mem_challengers.mp (hsub (mem_map_of_mem hc))

variable [Texts]

theorem verdict_of_quorum (h : r.minChallenges ≤ (r.severityByChallenger first).length)
    : (r.verdict first).outcome = r.outcome (r.severityByChallenger first) !first.defenses.isEmpty ∧
      (r.verdict first).approvalScore =
        score (r.severityByChallenger first) !first.defenses.isEmpty := by
  simp [verdict, not_lt.mpr h]

theorem verdict_congr
    (hsame : ∀ id, (r.severityByChallenger first).lookup id =
      (r.severityByChallenger second).lookup id)
    (hdef : first.defenses = [] ↔ second.defenses = [])
    : (r.verdict first).outcome = (r.verdict second).outcome ∧
      (r.verdict first).approvalScore = (r.verdict second).approvalScore := by
  have hw := (r.strongest first).weighs (r.strongest second)
    fun id s hs => ⟨s, hsame id ▸ hs, le_rfl⟩
  have hw' := (r.strongest second).weighs (r.strongest first)
    fun id s hs => ⟨s, (hsame id).symm ▸ hs, le_rfl⟩
  obtain ⟨hlen, hsum, hmax⟩ := hw.antisymm hw'
  have hempty : first.defenses.isEmpty = second.defenses.isEmpty := by
    rw [Bool.eq_iff_iff, List.isEmpty_iff, List.isEmpty_iff, hdef]
  simp only [verdict, outcome, avgSeverity, score_eq, hlen, hsum, hmax, hempty]
  split <;> exact ⟨rfl, rfl⟩

theorem Opposes.not_approved (h : r.Opposes first second)
    (hsafe : (r.challengers first.proposerId).length ≤ r.minChallenges ∨
      r.escalationThreshold ≤ minSeverity ∨ r.dilutedScore < r.approvalThreshold)
    (hfst : (r.verdict first).outcome = .rejected ∨ (r.verdict first).outcome = .escalated)
    : (r.verdict second).outcome ≠ .approved := by
  have hw := h.weighs
  rw [(verdict_of_quorum h.quorum).1, h.defenses] at hfst
  rw [(verdict_of_quorum (h.quorum.trans hw.length)).1]
  generalize (!second.defenses.isEmpty) = defended at hfst ⊢
  have hsc := hw.score_le defended
  simp only [outcome] at hfst ⊢
  intro hsnd
  split at hsnd
  . cases hsnd
  . next hbelow =>
    split at hsnd
    . next happ =>
      split at hfst
      . next hesc =>
        obtain ⟨hmore, hthr, hdil⟩ := hw.diluted (r.strongest first)
          (r.strongest second) (r.minChallenges_pos.trans h.quorum) r.escalation_mem hesc
          (not_le.mp hbelow) h.quorum defended
        rcases hsafe with hsafe | hsafe | hsafe
        . have hlim := length_severityByChallenger_le r second
          have hq := h.quorum
          rw [← h.proposerId] at hlim
          omega
        . exact absurd hthr (not_lt.mpr hsafe)
        . exact absurd (happ.trans hdil) (not_le.mpr hsafe)
      . rw [if_pos (happ.trans hsc)] at hfst
        simp at hfst
    . cases hsnd

theorem exists_diluted (hmany : r.minChallenges < (r.challengers proposerId).length)
    (hthr : minSeverity < r.escalationThreshold) (hsc : r.approvalThreshold ≤ r.dilutedScore)
    : ∃ first second, first.proposerId = proposerId ∧ r.Opposes first second ∧
      (r.verdict first).outcome = .escalated ∧ (r.verdict second).outcome = .approved := by
  have hpos := r.minChallenges_pos
  have hids := length_take_of_le hmany
  have hsub := take_subset (r.minChallenges + 1) (r.challengers proposerId)
  have hnodup := (nodup_dedup _).sublist
    (take_sublist (r.minChallenges + 1) (r.challengers proposerId))
  cases htake : (r.challengers proposerId).take (r.minChallenges + 1) with
  | nil => simp [htake] at hids
  | cons last ids =>
    rw [htake] at hids hsub hnodup
    have hids : ids.length = r.minChallenges := Nat.succ.inj hids
    let strong : List Challenge := ids.map fun id =>
      ⟨id, r.escalationThreshold, hthr.le, r.escalation_mem.2⟩
    let weak : Challenge := ⟨last, minSeverity, le_rfl, by decide +kernel⟩
    let first : DebateRecord := ⟨proposerId, strong, [⟨proposerId, ""⟩], none⟩
    let second : DebateRecord := { first with challenges := weak :: strong }
    have hstrong : strong.map (·.challengerId) = ids := by simp [strong, Function.comp_def]
    have hfst : r.severityByChallenger first = ids.map (·, r.escalationThreshold) := by
      rw [severityByChallenger_of_nodup]
      . simp [first, strong, Function.comp_def]
      . exact hstrong ▸ (nodup_cons.mp hnodup).2
      . exact hstrong ▸ (cons_subset.mp hsub).2
    have hsnd : r.severityByChallenger second =
        (last, minSeverity) :: ids.map (·, r.escalationThreshold) := by
      rw [severityByChallenger_of_nodup]
      . simp [second, strong, weak, Function.comp_def]
      . simpa [second, weak, hstrong] using hnodup
      . simpa [second, weak, hstrong] using hsub
    have hsev : (ids.map (·, r.escalationThreshold)).map Prod.snd =
        replicate r.minChallenges r.escalationThreshold := by
      simp [Function.comp_def, hids]
    have hmax : (minSeverity :: replicate r.minChallenges r.escalationThreshold).max? =
        some r.escalationThreshold := by
      rw [max?_eq_some_iff]
      simp [hthr.le, Nat.ne_of_gt hpos]
    have hcast : (0 : ℚ) < r.minChallenges := Nat.cast_pos.mpr hpos
    have hq : r.minChallenges ≤ (r.severityByChallenger first).length := by simp [hfst, hids]
    have hq' : r.minChallenges ≤ (r.severityByChallenger second).length := by
      simp [hsnd, hids]
    refine ⟨first, second, rfl, ⟨rfl, ?_, rfl, hq⟩, ?_, ?_⟩
    . intro c hc
      exact mem_cons_of_mem _ (mem_filter.mp hc).1
    . rw [(verdict_of_quorum hq).1, outcome, if_pos]
      rw [hfst, avgSeverity, hsev, sum_replicate, nsmul_eq_mul, length_map, hids,
        mul_div_cancel_left₀ _ hcast.ne']
    . rw [(verdict_of_quorum hq').1, outcome, hsnd, if_neg, if_pos]
      . refine hsc.trans (le_of_eq ?_)
        rw [score_eq, maxSeverity, map_cons, hsev, hmax, sum_cons, sum_replicate, nsmul_eq_mul,
          dilutedScore, if_pos (show (!second.defenses.isEmpty) = true from rfl)]
        simp only [defenseResponseCredit, minSeverity, Option.getD_some]
        ring_nf
      . rw [not_le, avgSeverity, map_cons, hsev, sum_cons, sum_replicate, nsmul_eq_mul, length_cons,
          length_map, hids, div_lt_iff₀ (Nat.cast_pos.mpr (Nat.succ_pos _)), Nat.cast_succ]
        linarith

theorem opposition_never_helps_iff (r : DebateResolver) (proposerId : String)
    : ((∀ first second, first.proposerId = proposerId → r.Opposes first second →
          (r.verdict first).outcome = .rejected ∨ (r.verdict first).outcome = .escalated →
          (r.verdict second).outcome ≠ .approved ∧
          (r.verdict second).approvalScore ≤ (r.verdict first).approvalScore) ∧
        ∀ first second : DebateRecord, (∀ id, (r.severityByChallenger first).lookup id =
            (r.severityByChallenger second).lookup id) →
          (first.defenses = [] ↔ second.defenses = []) →
          (r.verdict first).outcome = (r.verdict second).outcome ∧
          (r.verdict first).approvalScore = (r.verdict second).approvalScore) ↔
      (r.challengers proposerId).length ≤ r.minChallenges ∨
        r.escalationThreshold ≤ minSeverity ∨ r.dilutedScore < r.approvalThreshold := by
  constructor
  . rintro ⟨hnever, -⟩
    by_contra hunsafe
    simp only [not_or, not_le, not_lt] at hunsafe
    obtain ⟨first, second, hprop, hopp, hfst, hsnd⟩ :=
      exists_diluted hunsafe.1 hunsafe.2.1 hunsafe.2.2
    exact (hnever first second hprop hopp (.inr hfst)).1 hsnd
  . intro hsafe
    refine ⟨?_, fun first second => verdict_congr⟩
    rintro first second rfl hopp hfst
    refine ⟨hopp.not_approved hsafe hfst, ?_⟩
    have hq' := hopp.quorum.trans hopp.weighs.length
    rw [(verdict_of_quorum hopp.quorum).2, (verdict_of_quorum hq').2, hopp.defenses]
    exact hopp.weighs.score_le _

end Opposition

end DebateResolver

end Debate

namespace Debate.Sample

local instance texts : Texts where
  repr text := text
  str _ := ""
  fixed _ _ := ""

def lenient : DebateResolver where
  approvalThreshold := 1 / 5
  minChallenges := 1
  escalationThreshold := 17 / 20
  constitutionalHash := "hash"
  roles := [("a", [.challenger]), ("b", [.challenger])]
  records := []
  minChallenges_pos := by decide
  approval_mem := by decide +kernel
  escalation_mem := by decide +kernel

def debate (opposition : List (String × ℚ)) : Apcc.Py VerdictOutcome := do
  let proposed ← lenient.propose "proposal" "proposer"
  let challenged ← opposition.foldlM (fun r c => r.challenge "proposal" c.1 c.2) proposed
  let defended ← challenged.defend "proposal" "proposer" ""
  let (verdict, _) ← defended.resolve "proposal" none
  return verdict.outcome

theorem debate_weak_challenge_approves
    : debate [("a", 9 / 10)] = .ok .escalated ∧
      debate [("a", 9 / 10), ("b", 1 / 20)] = .ok .approved := by
  decide +kernel

end Debate.Sample
