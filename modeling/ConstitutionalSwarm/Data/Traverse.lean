import Mathlib.Data.List.Basic

namespace Except

open List

variable {ε α β : Type}

variable {x : Except ε α} {f : α → Except ε β} {b : β} {l : List α}

theorem bind_eq_ok
    : (x >>= f) = .ok b ↔ ∃ a, x = .ok a ∧ f a = .ok b := by
  cases x <;> simp [bind, Except.bind]

theorem pure_inj {a b : α} : (pure a : Except ε α) = .ok b ↔ a = b := by
  simp [pure, Except.pure]

theorem exists_unit {p : Unit → Prop} : (∃ u, p u) ↔ p () :=
  ⟨fun ⟨_, h⟩ => h, fun h => ⟨(), h⟩⟩

theorem map_eq_ok {f : α → β}
    : x.map f = .ok b ↔ ∃ a, x = .ok a ∧ f a = b := by
  cases x <;> simp [Except.map]

theorem toOption_eq_some {a : α} : x.toOption = some a ↔ x = .ok a := by
  cases x <;> simp [Except.toOption]

theorem forM_eq_ok {f : α → Except ε Unit} {u : Unit}
    : l.forM f = .ok u ↔ ∀ a ∈ l, f a = .ok () := by
  induction l with
  | nil => simp [pure, Except.pure]
  | cons a l ih =>
    change (f a >>= fun _ => l.forM f) = .ok u ↔ _
    rw [bind_eq_ok, exists_unit, ih]
    simp

theorem mapM_eq_ok {bs : List β}
    : l.mapM f = .ok bs ↔
      (∀ a ∈ l, ∃ b, f a = .ok b) ∧ bs = l.filterMap fun a => (f a).toOption := by
  induction l generalizing bs with
  | nil => simp [pure, Except.pure, eq_comm]
  | cons a l ih =>
    rw [mapM_cons, bind_eq_ok]
    constructor
    . rintro ⟨b, hb, h⟩
      rw [bind_eq_ok] at h
      obtain ⟨_, hbs', h⟩ := h
      obtain ⟨hall, rfl⟩ := ih.mp hbs'
      refine ⟨?_, ?_⟩
      . intro a' ha'
        rcases mem_cons.mp ha' with rfl | ha'
        . exact ⟨b, hb⟩
        . exact hall a' ha'
      . simp only [filterMap_cons, toOption_eq_some.mpr hb]
        exact (Except.ok.inj h).symm
    . rintro ⟨hall, rfl⟩
      obtain ⟨b, hb⟩ := hall a mem_cons_self
      refine ⟨b, hb, ?_⟩
      have htail := ih.mpr ⟨fun a' ha' => hall a' (mem_cons_of_mem _ ha'), rfl⟩
      simp only [htail, filterMap_cons, toOption_eq_some.mpr hb]
      rfl

theorem mapM_of_forall {g : α → β} (h : ∀ a ∈ l, f a = .ok (g a)) : l.mapM f = .ok (l.map g) := by
  induction l with
  | nil => rfl
  | cons a l ih =>
    obtain ⟨ha, hl⟩ := forall_mem_cons.mp h
    rw [mapM_cons, ha, ih hl]
    rfl

theorem mapM_pair_eq_ok {ps : List (α × β)}
    : (l.mapM fun a => do let b ← f a; return (a, b)) = .ok ps ↔
      ps.map Prod.fst = l ∧ ∀ p ∈ ps, f p.1 = .ok p.2 := by
  induction l generalizing ps with
  | nil => cases ps <;> simp [pure, Except.pure]
  | cons a l ih =>
    simp only [mapM_cons, bind_eq_ok, ih]
    constructor
    . rintro ⟨_, ⟨b, hb, hp⟩, qs, ⟨hfst, hqs⟩, hps⟩
      cases hp
      cases hps
      exact ⟨by rw [map_cons, hfst], forall_mem_cons.mpr ⟨hb, hqs⟩⟩
    . rintro ⟨hfst, hall⟩
      obtain ⟨p, qs, rfl, rfl, hqs⟩ := map_eq_cons_iff.mp hfst
      obtain ⟨hp, hall⟩ := forall_mem_cons.mp hall
      exact ⟨_, ⟨_, hp, rfl⟩, qs, ⟨hqs, hall⟩, rfl⟩

theorem exists_pairs {r : α → β → Prop} (h : ∀ a ∈ l, ∃ b, r a b)
    : ∃ ps : List (α × β), ps.map Prod.fst = l ∧ ∀ p ∈ ps, r p.1 p.2 := by
  induction l with
  | nil => exact ⟨[], rfl, by simp⟩
  | cons a l ih =>
    obtain ⟨hhead, htail⟩ := forall_mem_cons.mp h
    obtain ⟨b, hb⟩ := hhead
    obtain ⟨ps, hps, hall⟩ := ih htail
    exact ⟨(a, b) :: ps, by rw [map_cons, hps], forall_mem_cons.mpr ⟨hb, hall⟩⟩

theorem map_of_mapM {g : β → α} {bs : List β} (hstep : ∀ a ∈ l, ∀ b, f a = .ok b → g b = a)
    (h : l.mapM f = .ok bs) : bs.map g = l := by
  induction l generalizing bs with
  | nil =>
    cases h
    rfl
  | cons a l ih =>
    rw [mapM_cons, bind_eq_ok] at h
    obtain ⟨b, hb, h⟩ := h
    rw [bind_eq_ok] at h
    obtain ⟨_, hbs', h⟩ := h
    cases h
    rw [map_cons, hstep a mem_cons_self b hb,
      ih (fun a' ha' => hstep a' (mem_cons_of_mem _ ha')) hbs']

theorem foldlM_invariant {p : β → Prop} {f : β → α → Except ε β} {b' : β}
    (hstep : ∀ a ∈ l, ∀ b b', f b a = .ok b' → p b → p b') (h : l.foldlM f b = .ok b') (hb : p b)
    : p b' := by
  induction l generalizing b with
  | nil => exact Except.ok.inj h ▸ hb
  | cons a l ih =>
    rw [foldlM_cons, bind_eq_ok] at h
    obtain ⟨b₁, h₁, h⟩ := h
    exact ih (fun a' ha' => hstep a' (mem_cons_of_mem _ ha')) h (hstep a mem_cons_self b b₁ h₁ hb)

end Except
