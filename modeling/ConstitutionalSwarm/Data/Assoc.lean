import Mathlib.Data.List.Nodup

namespace Assoc

open List

variable {α β : Type}

theorem nodup_map_concat {f : α → β} {l : List α} {a : α}
    : ((l ++ [a]).map f).Nodup ↔ f a ∉ l.map f ∧ (l.map f).Nodup := by
  rw [map_append, map_singleton, ← concat_eq_append, nodup_concat]

section Lookup

variable [BEq α] [LawfulBEq α] {l : List (α × β)} {a : α} {b : β}

theorem mem_of_lookup (h : l.lookup a = some b) : (a, b) ∈ l := by
  induction l with
  | nil => simp at h
  | cons e l ih =>
    rw [lookup_cons] at h
    split at h
    . next heq =>
      rw [beq_iff_eq.mp heq, ← Option.some.inj h]
      exact mem_cons_self
    . exact mem_cons_of_mem _ (ih h)

theorem lookup_isSome : (l.lookup a).isSome ↔ ∃ b, (a, b) ∈ l := by
  constructor
  . intro h
    obtain ⟨b, hb⟩ := Option.isSome_iff_exists.mp h
    exact ⟨b, mem_of_lookup hb⟩
  . rintro ⟨b, hb⟩
    cases hlook : l.lookup a with
    | some _ => rfl
    | none =>
      rw [lookup_eq_none_iff] at hlook
      simpa using hlook _ hb

theorem lookup_eq_some (huniq : ∀ b b', (a, b) ∈ l → (a, b') ∈ l → b = b')
    : l.lookup a = some b ↔ (a, b) ∈ l := by
  refine ⟨mem_of_lookup, fun h => ?_⟩
  obtain ⟨b', hb'⟩ := Option.isSome_iff_exists.mp (lookup_isSome.mpr ⟨b, h⟩)
  rw [hb', huniq b' b (mem_of_lookup hb') h]

end Lookup

section Update

variable [DecidableEq α]

def set (a : α) (b : β) : List (α × β) → List (α × β)
  | [] => [(a, b)]
  | (a', b') :: rest => if a' = a then (a, b) :: rest else (a', b') :: set a b rest

def erase (a : α) (l : List (α × β)) : List (α × β) :=
  l.filter fun e => e.1 ≠ a

theorem lookup_cons (a : α) (e : α × β) (l : List (α × β))
    : (e :: l).lookup a = if a = e.1 then some e.2 else l.lookup a := by
  rw [List.lookup_cons]
  by_cases h : a = e.1
  . simp [h]
  . rw [if_neg h, beq_eq_false_iff_ne.mpr h]

theorem lookup_set (a a' : α) (b : β) (l : List (α × β))
    : (set a b l).lookup a' = if a' = a then some b else l.lookup a' := by
  induction l with
  | nil => rw [set, lookup_cons]
  | cons e l ih =>
    rw [set]
    by_cases he : e.1 = a
    . rw [if_pos he, lookup_cons, lookup_cons, he]
      split <;> rfl
    . rw [if_neg he, lookup_cons, lookup_cons, ih]
      by_cases h : a' = e.1
      . rw [if_pos h, if_pos h, if_neg (h ▸ he)]
      . rw [if_neg h, if_neg h]

theorem lookup_erase (a a' : α) (l : List (α × β))
    : (erase a l).lookup a' = if a' = a then none else l.lookup a' := by
  induction l with
  | nil => simp [erase]
  | cons e l ih =>
    rw [erase, filter_cons, lookup_cons]
    by_cases he : e.1 = a
    . rw [if_neg (by simp [he]), ← erase, ih, he]
      split <;> rfl
    . rw [if_pos (by simp [he]), lookup_cons, ← erase, ih]
      by_cases h : a' = e.1
      . rw [if_pos h, if_pos h, if_neg (h ▸ he)]
      . rw [if_neg h, if_neg h]

variable {a : α} {l : List (α × β)}

theorem mem_set {b : β} {e : α × β} (h : e ∈ set a b l)
    : e = (a, b) ∨ e ∈ l := by
  induction l with
  | nil => simpa [set] using h
  | cons e' l ih =>
    rw [set] at h
    split at h
    . rcases mem_cons.mp h with rfl | h
      . exact .inl rfl
      . exact .inr (mem_cons_of_mem _ h)
    . rcases mem_cons.mp h with rfl | h
      . exact .inr mem_cons_self
      . exact (ih h).imp_right (mem_cons_of_mem _)

theorem set_of_lookup_none (h : l.lookup a = none) (b : β)
    : set a b l = l ++ [(a, b)] := by
  induction l with
  | nil => rfl
  | cons e l ih =>
    rw [lookup_cons] at h
    split at h
    . simp at h
    . next hne => rw [set, if_neg (Ne.symm hne), ih h, cons_append]

theorem map_set {γ : Type} (f : β → γ) (a : α) (b : β) (l : List (α × β))
    : (set a b l).map (fun e => (e.1, f e.2)) = set a (f b) (l.map fun e => (e.1, f e.2)) := by
  induction l with
  | nil => rfl
  | cons e l ih =>
    rw [set, map_cons, set]
    split
    . rfl
    . rw [map_cons, ih]

theorem lookup_eq_none : l.lookup a = none ↔ a ∉ l.map Prod.fst := by
  rw [lookup_eq_none_iff]
  simp only [mem_map, not_exists, not_and, bne_iff_ne, ne_eq]
  exact ⟨fun h e he heq => h e he heq.symm, fun h e he heq => h e he heq.symm⟩

theorem foldl_set {γ : Type} (f : γ → α) (g : γ → β) {xs : List γ}
    (h : (l.map Prod.fst ++ xs.map f).Nodup)
    : xs.foldl (fun l x => set (f x) (g x) l) l = l ++ xs.map fun x => (f x, g x) := by
  induction xs generalizing l with
  | nil => simp
  | cons x xs ih =>
    have hfresh : l.lookup (f x) = none := by
      rw [lookup_eq_none]
      intro hmem
      exact disjoint_of_nodup_append h hmem (by simp)
    rw [foldl_cons, set_of_lookup_none hfresh, ih (by simpa using h)]
    simp

end Update

def Unique (l : List (α × β)) : Prop :=
  (l.map Prod.fst).Nodup

namespace Unique

variable {l : List (α × β)} {a : α} {b : β}

theorem nil : Unique ([] : List (α × β)) :=
  nodup_nil

theorem cons {e : α × β} : Unique (e :: l) ↔ (∀ e' ∈ l, e'.1 ≠ e.1) ∧ Unique l := by
  simp only [Unique, map_cons, nodup_cons, mem_map, not_exists, not_and, ne_eq]

variable [DecidableEq α]

theorem lookup_eq_some (h : Unique l) : l.lookup a = some b ↔ (a, b) ∈ l := by
  apply Assoc.lookup_eq_some
  intro b b' hb hb'
  exact congrArg Prod.snd (inj_on_of_nodup_map h hb hb' rfl)

theorem set (h : Unique l) (a : α) (b : β) : Unique (set a b l) := by
  induction l with
  | nil => simp [Assoc.set, cons, nil]
  | cons e l ih =>
    obtain ⟨hhead, htail⟩ := cons.mp h
    rw [Assoc.set]
    split
    . next he => exact cons.mpr ⟨by simpa [← he] using hhead, htail⟩
    . next he =>
      refine cons.mpr ⟨?_, ih htail⟩
      intro e' he' heq
      have hlook := (lookup_eq_some (ih htail)).mpr he'
      rw [heq, lookup_set, if_neg he] at hlook
      exact hhead _ (mem_of_lookup hlook) rfl

theorem erase (h : Unique l) (a : α) : Unique (erase a l) :=
  h.sublist (filter_sublist.map _)

omit [DecidableEq α] in
theorem perm_erase [BEq α] [LawfulBEq α] [DecidableEq α] (h : Unique l)
    (hlook : l.lookup a = some b) : (Assoc.erase a l ++ [(a, b)]).Perm l := by
  induction l with
  | nil => simp at hlook
  | cons e l ih =>
    obtain ⟨hhead, htail⟩ := cons.mp h
    rw [List.lookup_cons] at hlook
    split at hlook
    . next he =>
      obtain rfl := beq_iff_eq.mp he
      cases hlook
      rw [Assoc.erase, filter_cons_of_neg (by simp), filter_eq_self.mpr (by simpa using hhead)]
      exact perm_append_singleton _ _
    . next he =>
      rw [Assoc.erase, filter_cons_of_pos (by simpa using Ne.symm (beq_eq_false_iff_ne.mp he))]
      exact (ih htail hlook).cons e

theorem nodup_map {γ : Type} {f : β → γ} (h : Unique l)
    : (l.map fun e => f e.2).Nodup ↔
      ∀ a a' b b', l.lookup a = some b → l.lookup a' = some b' → f b = f b' → a = a' := by
  have hnodup : l.Nodup := List.Nodup.of_map Prod.fst h
  rw [nodup_map_iff_inj_on hnodup]
  constructor
  . intro hinj a a' b b' hb hb' heq
    exact congrArg Prod.fst (hinj _ (h.lookup_eq_some.mp hb) _ (h.lookup_eq_some.mp hb') heq)
  . rintro hkeys ⟨a, b⟩ hb ⟨a', b'⟩ hb' heq
    obtain rfl := hkeys a a' b b' (h.lookup_eq_some.mpr hb) (h.lookup_eq_some.mpr hb') heq
    have hvalue := h.lookup_eq_some.mpr hb
    rw [h.lookup_eq_some.mpr hb', Option.some.injEq] at hvalue
    rw [hvalue]

end Unique

end Assoc
