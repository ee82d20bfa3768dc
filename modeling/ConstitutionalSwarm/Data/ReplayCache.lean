import Mathlib.Order.Lattice
import ConstitutionalSwarm.Data.Assoc

namespace ReplayCache

variable {κ τ : Type} [DecidableEq κ] [LinearOrder τ]

inductive Refusal where
  | replayed
  | full
  deriving DecidableEq

def sweep (now : τ) (cache : List (κ × τ)) : List (κ × τ) :=
  cache.filter fun e => ¬e.2 < now

def acceptSwept (capacity : ℕ) (cache : List (κ × τ)) (nonce : κ) (expiry : τ)
    : List (κ × τ) × Option Refusal :=
  if (cache.lookup nonce).isSome then (cache, some .replayed)
  else if capacity ≤ cache.length then (cache, some .full)
  else (cache ++ [(nonce, expiry)], none)

def accept (capacity : ℕ) (cache : List (κ × τ)) (nonce : κ) (now expiry : τ)
    : List (κ × τ) × Option Refusal :=
  acceptSwept capacity (sweep now cache) nonce expiry

variable {capacity : ℕ} {cache cache' : List (κ × τ)} {nonce : κ} {now expiry : τ}
  {refusal : Option Refusal}

theorem mem_or_lt_of_accept (h : accept capacity cache nonce now expiry = (cache', refusal))
    {e : κ × τ} (he : e ∈ cache) : e ∈ cache' ∨ e.2 < now := by
  by_cases hlt : e.2 < now
  . exact .inr hlt
  . left
    have hswept : e ∈ sweep now cache := by simpa [sweep] using ⟨he, not_lt.mp hlt⟩
    unfold accept acceptSwept at h
    split at h
    . exact (Prod.mk.inj h).1 ▸ hswept
    . split at h
      . exact (Prod.mk.inj h).1 ▸ hswept
      . exact (Prod.mk.inj h).1 ▸ List.mem_append_left _ hswept

theorem mem_of_accept (h : accept capacity cache nonce now expiry = (cache', none))
    : (nonce, expiry) ∈ cache' := by
  unfold accept acceptSwept at h
  split at h
  . simp at h
  . split at h
    . simp at h
    . simp [← (Prod.mk.inj h).1]

theorem lt_of_accept (h : accept capacity cache nonce now expiry = (cache', none)) {expiry' : τ}
    (hmem : (nonce, expiry') ∈ cache) : expiry' < now := by
  by_contra hkept
  have hfound : ((sweep now cache).lookup nonce).isSome := by
    rw [Assoc.lookup_isSome]
    exact ⟨expiry', by simpa [sweep] using ⟨hmem, not_lt.mp hkept⟩⟩
  rw [accept, acceptSwept, if_pos hfound] at h
  simp at h

theorem length_le_of_accept (h : accept capacity cache nonce now expiry = (cache', refusal))
    (hcache : cache.length ≤ capacity) : cache'.length ≤ capacity := by
  have hswept : (sweep now cache).length ≤ cache.length := List.length_filter_le _ _
  unfold accept acceptSwept at h
  split at h
  . rw [← (Prod.mk.inj h).1]
    omega
  . split at h
    . rw [← (Prod.mk.inj h).1]
      omega
    . rw [← (Prod.mk.inj h).1, List.length_append, List.length_singleton]
      omega

end ReplayCache
