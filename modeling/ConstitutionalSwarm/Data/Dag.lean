import Mathlib.Data.Fintype.Order

namespace Dag

open Relation (TransGen ReflTransGen)

section Finite

variable {α : Type} {r : α → α → Prop} {s : Set α}

theorem exists_cycle (hs : s.Finite) {a : α} (ha : a ∈ s) (h : ∀ b ∈ s, ∃ p ∈ s, r p b)
    : ∃ b ∈ s, TransGen r b b := by
  by_contra hacyclic
  have : Finite s := hs
  let below : s → s → Prop := fun p b => TransGen r p.1 b.1
  have htrans : IsTrans s below := ⟨fun _ _ _ hab hbc => hab.trans hbc⟩
  have hirrefl : Std.Irrefl below := ⟨fun b hb => hacyclic ⟨b.1, b.2, hb⟩⟩
  have hwf : WellFounded below := Finite.wellFounded_of_trans_of_irrefl below
  obtain ⟨b, -, hmin⟩ := hwf.has_min Set.univ ⟨⟨a, ha⟩, trivial⟩
  obtain ⟨p, hp, hpb⟩ := h b.1 b.2
  exact hmin ⟨p, hp⟩ trivial (.single hpb)

end Finite

variable {α : Type} (parents : α → Option (List α))

def IsParent (p c : α) : Prop :=
  ∃ ps, parents c = some ps ∧ p ∈ ps

inductive Closed : α → Prop
  | intro {c : α} {ps : List α} (h : parents c = some ps) (hps : ∀ p ∈ ps, Closed p) : Closed c

def Complete (c : α) : Prop :=
  ∀ a, ReflTransGen (IsParent parents) a c → (parents a).isSome

def CyclicAbove (c : α) : Prop :=
  ∃ a, ReflTransGen (IsParent parents) a c ∧ TransGen (IsParent parents) a a

variable {parents} {c : α}

theorem Closed.isSome (h : Closed parents c) : (parents c).isSome := by
  cases h with
  | intro h hps => rw [h]; rfl

theorem Closed.of_isParent {p : α} (h : Closed parents c) (hp : IsParent parents p c)
    : Closed parents p := by
  obtain ⟨_, hps, hmem⟩ := hp
  cases h with
  | intro h hclosed =>
    rw [h, Option.some.injEq] at hps
    exact hclosed p (hps ▸ hmem)

theorem Closed.of_above {a : α} (h : Closed parents c)
    (ha : ReflTransGen (IsParent parents) a c) : Closed parents a := by
  induction ha using ReflTransGen.head_induction_on with
  | refl => exact h
  | head hparent hrest ih => exact ih.of_isParent hparent

theorem Closed.mono {parents' : α → Option (List α)} (h : Closed parents c)
    (hle : ∀ c ps, parents c = some ps → parents' c = some ps) : Closed parents' c := by
  induction h with
  | intro h hps ih => exact .intro (hle _ _ h) ih

theorem Complete.mono {parents' : α → Option (List α)} (h : Complete parents c)
    (hle : ∀ c ps, parents c = some ps → parents' c = some ps) : Complete parents' c := by
  intro a ha
  have hold : ReflTransGen (IsParent parents) a c := by
    induction ha using ReflTransGen.head_induction_on with
    | refl => exact .refl
    | head hparent _ ih =>
      obtain ⟨ps, hps⟩ := Option.isSome_iff_exists.mp (h _ ih)
      obtain ⟨_, hps', hmem⟩ := hparent
      rw [hle _ _ hps, Option.some.injEq] at hps'
      exact .head ⟨ps, hps, hps' ▸ hmem⟩ ih
  obtain ⟨ps, hps⟩ := Option.isSome_iff_exists.mp (h a hold)
  rw [hle a ps hps]
  rfl

theorem Closed.acc (h : Closed parents c) : Acc (IsParent parents) c := by
  induction h with
  | intro h hps ih =>
    constructor
    intro p hp
    obtain ⟨_, hps', hmem⟩ := hp
    rw [h, Option.some.injEq] at hps'
    exact ih p (hps' ▸ hmem)

theorem Closed.not_cycle (h : Closed parents c) : ¬TransGen (IsParent parents) c c := by
  have hacc := h.acc.transGen
  clear h
  induction hacc with
  | intro c _ ih => exact fun hcycle => ih c hcycle hcycle

theorem closed_iff (hfinite : {c | (parents c).isSome}.Finite)
    : Closed parents c ↔ Complete parents c ∧ ¬CyclicAbove parents c := by
  constructor
  . intro h
    constructor
    . intro a ha
      exact (h.of_above ha).isSome
    . rintro ⟨a, ha, hcycle⟩
      exact (h.of_above ha).not_cycle hcycle
  . rintro ⟨hcompl, hacyclic⟩
    by_contra hopen
    let s : Set α := {a | ReflTransGen (IsParent parents) a c ∧ ¬Closed parents a}
    have hs : s.Finite := hfinite.subset fun a ha => hcompl a ha.1
    -- every node above that is not closed has a parent that is not
    have hstep : ∀ b ∈ s, ∃ p ∈ s, IsParent parents p b := by
      rintro b ⟨hb, hnot⟩
      obtain ⟨ps, hps⟩ := Option.isSome_iff_exists.mp (hcompl b hb)
      by_contra hall
      apply hnot
      apply Closed.intro hps
      intro p hp
      by_contra hp'
      exact hall ⟨p, ⟨.head ⟨ps, hps, hp⟩ hb, hp'⟩, ps, hps, hp⟩
    obtain ⟨b, hb, hcycle⟩ := exists_cycle hs ⟨.refl, hopen⟩ hstep
    exact hacyclic ⟨b, hb.1, hcycle⟩

theorem exists_head (hfinite : {c | (parents c).isSome}.Finite) (hc : (parents c).isSome)
    : (∃ h, (parents h).isSome ∧ ReflTransGen (IsParent parents) c h ∧ ∀ d, ¬IsParent parents h d) ∨
      ∃ a, TransGen (IsParent parents) a a := by
  by_contra hnot
  rw [not_or] at hnot
  let s : Set α := {a | (parents a).isSome ∧ ReflTransGen (IsParent parents) c a}
  have hstep : ∀ b ∈ s, ∃ p ∈ s, Function.swap (IsParent parents) p b := by
    rintro b ⟨hb, hbelow⟩
    by_contra hlast
    refine hnot.1 ⟨b, hb, hbelow, ?_⟩
    rintro d ⟨ps, hps, hmem⟩
    refine hlast ⟨d, ⟨?_, hbelow.tail ⟨ps, hps, hmem⟩⟩, ps, hps, hmem⟩
    rw [hps]
    rfl
  have hs : s.Finite := hfinite.subset fun a ha => ha.1
  have hmem : c ∈ s := ⟨hc, .refl⟩
  obtain ⟨a, -, hcycle⟩ := exists_cycle hs hmem hstep
  exact hnot.2 ⟨a, Relation.transGen_swap.mp hcycle⟩

end Dag
