import Mathlib.Logic.Relation

namespace Except

variable {ε α β γ δ : Type} {r : α → β → Prop} {r' : γ → δ → Prop}

inductive Lockstep (r : α → β → Prop) : Except ε α → Except ε β → Prop where
  | ok {a : α} {b : β} (h : r a b) : Lockstep r (.ok a) (.ok b)
  | error (e : ε) : Lockstep r (.error e) (.error e)

namespace Lockstep

theorem bind {x : Except ε α} {y : Except ε β} {f : α → Except ε γ} {g : β → Except ε δ}
    (h : Lockstep r x y) (hfg : ∀ a b, r a b → Lockstep r' (f a) (g b))
    : Lockstep r' (x >>= f) (y >>= g) := by
  cases h with
  | ok hab => exact hfg _ _ hab
  | error e => exact .error e

theorem bind_same {x : Except ε α} {f : α → Except ε γ} {g : α → Except ε δ}
    (hfg : ∀ a, Lockstep r' (f a) (g a)) : Lockstep r' (x >>= f) (x >>= g) := by
  cases x with
  | ok a => exact hfg a
  | error e => exact .error e

end Lockstep

end Except
