import ConstitutionalSwarm.Data.Smallest
import ConstitutionalSwarm.Data.Tally
import ConstitutionalSwarm.Framing
import Mathlib.Algebra.Order.Ring.Rat

/-!
This module contains the validators with their fault domains, the set of the registered ones, and
the selection of a committee from a public seed.
-/

namespace Quorum

open Raising

structure ValidatorIdentity where
  agentId : String
  stake : ℚ
  reputation : ℚ
  faultDomain : String
  publicKeyBytes : Option Bytes
  agentId_ne : agentId ≠ ""
  nul_notMem : '\x00' ∉ agentId.toList
  stake_nonneg : 0 ≤ stake
  reputation_mem : 0 ≤ reputation ∧ reputation ≤ 1
  length_key : ∀ key ∈ publicKeyBytes, key.length = 32
  deriving DecidableEq

variable (set : ValidatorSet) (policy : FaultDomainPolicy) (v : ValidatorIdentity)

def ValidatorIdentity.effectiveWeight : ℚ :=
  v.stake * v.reputation

theorem ValidatorIdentity.effectiveWeight_nonneg : 0 ≤ v.effectiveWeight :=
  mul_nonneg v.stake_nonneg v.reputation_mem.1

inductive UntaggedPolicy where
  | strict
  | lenient
  deriving DecidableEq

structure FaultDomainPolicy where
  maxFraction : ℚ
  untaggedPolicy : UntaggedPolicy
  maxFraction_mem : 0 < maxFraction ∧ maxFraction ≤ 1
  deriving DecidableEq

def FaultDomainPolicy.resolveDomain : String :=
  if v.faultDomain ≠ "" then v.faultDomain
  else match policy.untaggedPolicy with
    | .strict => "__untagged__:" ++ v.agentId
    | .lenient => "__untagged__"

/-- The registered validators in the order of their registration, and the keys of removed ones. -/
structure ValidatorSet where
  policy : FaultDomainPolicy
  validators : List ValidatorIdentity
  retiredKeys : List (String × Bytes)
  nodup : (validators.map (·.agentId)).Nodup

namespace ValidatorSet

def empty : ValidatorSet :=
  ⟨policy, [], [], List.nodup_nil⟩

def get (agentId : String) : Option ValidatorIdentity :=
  set.validators.find? (·.agentId = agentId)

theorem notMem_of_get_eq_none {set : ValidatorSet} {agentId : String} (h : set.get agentId = none)
    : agentId ∉ set.validators.map (·.agentId) := by
  rw [get, List.find?_eq_none] at h
  rw [List.mem_map]
  rintro ⟨v, hv, rfl⟩
  exact h v hv (by simp)

def substitute : ValidatorSet :=
  { set with
    validators := set.validators.map fun old => if old.agentId = v.agentId then v else old
    retiredKeys := Assoc.erase v.agentId set.retiredKeys
    nodup := by
      have h : (set.validators.map fun old => if old.agentId = v.agentId then v else old).map
          (·.agentId) = set.validators.map (·.agentId) := by
        rw [List.map_map]
        apply List.map_congr_left
        intro old _
        dsimp only [Function.comp_apply]
        split
        . next heq => exact heq.symm
        . rfl
      rw [h]
      exact set.nodup }

def push (h : set.get v.agentId = none)
    : ValidatorSet :=
  { set with
    validators := set.validators ++ [v]
    retiredKeys := Assoc.erase v.agentId set.retiredKeys
    nodup := Assoc.nodup_map_concat.mpr ⟨notMem_of_get_eq_none h, set.nodup⟩ }

def add (replace rekey : Bool) : Py ValidatorSet :=
  match h : set.get v.agentId with
  | none => do
    let retired := set.retiredKeys.lookup v.agentId
    raiseIf (retired.isSome ∧ v.publicKeyBytes ≠ retired ∧ rekey = false) (.valueError
      ("validator '" ++ v.agentId ++ "' was removed with a different public key; " ++
        "pass rekey=True to re-register it under a new key"))
    return set.push v h
  | some existing => do
    ensure replace (.valueError ("validator '" ++ v.agentId ++ "' is already registered; " ++
      "pass replace=True to update it"))
    raiseIf (existing.publicKeyBytes.isSome ∧ v.publicKeyBytes ≠ existing.publicKeyBytes)
      (.valueError ("cannot change the registered public key of validator '" ++ v.agentId ++ "'"))
    return set.substitute v

def remove (agentId : String) : ValidatorSet :=
  { set with
    validators := set.validators.filter (·.agentId ≠ agentId)
    retiredKeys :=
      match (set.get agentId).bind (·.publicKeyBytes) with
      | some key => Assoc.set agentId key set.retiredKeys
      | none => set.retiredKeys
    nodup := set.nodup.sublist (List.filter_sublist.map _) }

def ofValidators (validators : List ValidatorIdentity) (policy : FaultDomainPolicy)
    : Py ValidatorSet :=
  validators.foldlM (fun set v => set.add v false false) (empty policy)

def snapshot : List ValidatorIdentity :=
  Smallest.sortBy (·.agentId) set.validators

end ValidatorSet

structure CommitteeSelection where
  members : List String
  weight : ℚ
  cappedWeight : ℚ
  domainWeights : List (String × ℚ)
  seed : String
  rawDomainWeights : List (String × ℚ)
  maxFraction : Option ℚ
  deriving DecidableEq

/-- The draw of a validator of positive weight, `-ln(u) / weight` for the digest `u` of seed
and id. -/
class Sortition where
  draw (seed agentId : String) (weight : ℚ) : WithTop ℚ

variable (seed : String)

section Select

variable [Sortition]

def score (agentId : String) (weight : ℚ) : WithTop ℚ :=
  if weight ≤ 0 then ⊤ else Sortition.draw seed agentId weight

def ValidatorIdentity.score (v : ValidatorIdentity) (seed : String) : WithTop ℚ :=
  Quorum.score seed v.agentId v.effectiveWeight

def ValidatorSet.candidates (exclude : List String)
    : List ValidatorIdentity :=
  set.validators.filter (·.agentId ∉ exclude)

def pick (k : ℕ) (candidates : List ValidatorIdentity) : List ValidatorIdentity :=
  Smallest.sortBy (·.agentId) (Smallest.smallest (·.score seed) k candidates)

def rawWeight (validators : List ValidatorIdentity) : ℚ :=
  (validators.map (·.effectiveWeight)).sum

def domainWeights (validators : List ValidatorIdentity)
    : List (String × ℚ) :=
  Tally.groups policy.resolveDomain (·.effectiveWeight) validators

def selectionOf (picked : List ValidatorIdentity)
    : CommitteeSelection :=
  let weight := rawWeight picked
  let perDomain := domainWeights policy picked
  let ceiling := policy.maxFraction * weight
  { members := picked.map (·.agentId)
    weight
    cappedWeight := if weight > 0 then Tally.capped ceiling perDomain else 0
    domainWeights := if weight > 0 then perDomain.map fun e => (e.1, min e.2 ceiling) else []
    seed
    rawDomainWeights := perDomain
    maxFraction := some policy.maxFraction }

def select (committeeSize : Int) (exclude : List String)
    : Py CommitteeSelection := do
  raiseIf (committeeSize ≤ 0)
    (.valueError ("committee_size must be positive, got " ++ toString committeeSize))
  let candidates := set.candidates exclude
  if candidates = [] then
    return {
      members := [], weight := 0, cappedWeight := 0, domainWeights := [], seed
      rawDomainWeights := [], maxFraction := some set.policy.maxFraction }
  let k := min committeeSize.toNat candidates.length
  return selectionOf set.policy seed (pick seed k candidates)

end Select

end Quorum
