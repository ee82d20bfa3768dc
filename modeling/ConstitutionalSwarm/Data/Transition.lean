import Mathlib.Logic.Relation

namespace Transition

variable {σ α ε : Type} {step : σ → α → Except ε σ} {allowed allowed' : σ → α → Prop} {s t u : σ}

def Run (step : σ → α → Except ε σ) (allowed : σ → α → Prop) : σ → σ → Prop :=
  Relation.ReflTransGen fun s s' => ∃ a, allowed s a ∧ step s a = .ok s'

namespace Run

theorem refl (s : σ) : Run step allowed s s :=
  Relation.ReflTransGen.refl

theorem tail {a : α} (h : Run step allowed s t) (ha : allowed t a) (hstep : step t a = .ok u)
    : Run step allowed s u :=
  Relation.ReflTransGen.tail h ⟨a, ha, hstep⟩

theorem invariant {p : σ → Prop} (hstep : ∀ s a s', allowed s a → step s a = .ok s' → p s → p s')
    (h : Run step allowed s t) (hs : p s) : p t := by
  induction h with
  | refl => exact hs
  | tail _ hlast ih =>
    obtain ⟨a, ha, hlast⟩ := hlast
    exact hstep _ a _ ha hlast ih

theorem related {r : σ → σ → Prop} (hrefl : ∀ s, r s s) (htrans : ∀ s t u, r s t → r t u → r s u)
    (hstep : ∀ s a s', allowed s a → step s a = .ok s' → r s s') (h : Run step allowed s t)
    : r s t := by
  induction h with
  | refl => exact hrefl s
  | tail _ hlast ih =>
    obtain ⟨a, ha, hlast⟩ := hlast
    exact htrans _ _ _ ih (hstep _ a _ ha hlast)

end Run

end Transition
