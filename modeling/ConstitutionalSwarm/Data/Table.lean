import Mathlib.Data.List.Nodup

class TableSchema (α : Type) where
  check : α → Bool
  /-- Whether a row may follow another one: no key is shared, and a row id grows. -/
  compatible : α → α → Bool

structure Table (α : Type) [TableSchema α] where
  rows : List α
  checked : ∀ r ∈ rows, TableSchema.check r = true
  distinct : rows.Pairwise fun a b => TableSchema.compatible a b = true

namespace Table

variable {α : Type} [TableSchema α]

@[ext]
theorem ext {s t : Table α} (h : s.rows = t.rows) : s = t := by
  cases s
  cases t
  simp_all

instance [DecidableEq α] : DecidableEq (Table α) := fun s t =>
  decidable_of_iff (s.rows = t.rows) ⟨ext, fun h => h ▸ rfl⟩

instance : Membership α (Table α) where
  mem t r := r ∈ t.rows

theorem mem_def {t : Table α} {r : α} : r ∈ t ↔ r ∈ t.rows := Iff.rfl

def empty : Table α where
  rows := []
  checked := by simp
  distinct := List.Pairwise.nil

def find? (t : Table α) (p : α → Bool) : Option α :=
  t.rows.find? p

def any (t : Table α) (p : α → Bool) : Bool :=
  t.rows.any p

def ofRows? (rows : List α) : Option (Table α) :=
  if h : (∀ r ∈ rows, TableSchema.check r = true) ∧
      rows.Pairwise fun a b => TableSchema.compatible a b = true then
    some ⟨rows, h.1, h.2⟩
  else none

def insert? (t : Table α) (row : α) : Option (Table α) :=
  if h : TableSchema.check row = true ∧ ∀ r ∈ t.rows, TableSchema.compatible r row = true then
    some
      { rows := t.rows ++ [row]
        checked := by
          intro r hr
          rcases List.mem_append.mp hr with hr | hr
          . exact t.checked r hr
          . exact List.mem_singleton.mp hr ▸ h.1
        distinct := List.pairwise_append.mpr ⟨t.distinct, List.pairwise_singleton _ _,
          fun a ha b hb => List.mem_singleton.mp hb ▸ h.2 a ha⟩ }
  else none

def update? (t : Table α) (p : α → Bool) (f : α → α) : Option (Table α) :=
  ofRows? (t.rows.map fun r => if p r then f r else r)

variable {t t' : Table α} {row r : α} {p : α → Bool} {f : α → α}

theorem rows_of_insert? (h : t.insert? row = some t')
    : t'.rows = t.rows ++ [row] := by
  unfold insert? at h
  split at h
  . rw [← Option.some.inj h]
  . simp at h

theorem check_of_insert? (h : t.insert? row = some t')
    : TableSchema.check row ∧ ∀ r ∈ t, TableSchema.compatible r row := by
  unfold insert? at h
  split at h
  . next hc => exact hc
  . simp at h

theorem insert?_isSome (hcheck : TableSchema.check row)
    (hcompat : ∀ r ∈ t, TableSchema.compatible r row)
    : ∃ t', t.insert? row = some t' := by
  unfold insert?
  rw [dif_pos ⟨hcheck, hcompat⟩]
  exact ⟨_, rfl⟩

theorem mem_insert? (h : t.insert? row = some t')
    : r ∈ t' ↔ r ∈ t ∨ r = row := by
  rw [mem_def, rows_of_insert? h, List.mem_append, List.mem_singleton, mem_def]

theorem find?_insert? (h : t.insert? row = some t') (p : α → Bool)
    : t'.find? p = (t.find? p).or (if p row then some row else none) := by
  rw [find?, rows_of_insert? h, List.find?_append, find?]
  congr 1
  simp [List.find?]
  split <;> simp_all

theorem mem_of_insert? (h : t.insert? row = some t') : row ∈ t' :=
  (mem_insert? h).mpr (.inr rfl)

theorem mem_or_of_insert? {q : α → Prop} (h : t.insert? row = some t') (hrow : q row)
    : ∀ r ∈ t', r ∈ t ∨ q r := by
  intro r hr
  rcases (mem_insert? h).mp hr with hr | rfl
  . exact .inl hr
  . exact .inr hrow

theorem forall_mem_of_insert? {q : α → Prop} (h : t.insert? row = some t')
    (hrows : ∀ r ∈ t, q r) (hrow : q row) : ∀ r ∈ t', q r :=
  fun r hr => (mem_or_of_insert? h hrow r hr).elim (hrows r) id

theorem find?_of_insert? (h : t.insert? row = some t') (hp : p row)
    (hnew : ∀ r ∈ t, p r = false) : t'.find? p = some row := by
  have hnone : t.find? p = none := by
    rw [find?, List.find?_eq_none]
    intro r hr
    rw [hnew r hr]
    simp
  rw [find?_insert? h, hnone, hp]
  rfl

theorem rows_of_ofRows? {rows : List α} (h : ofRows? rows = some t)
    : t.rows = rows := by
  unfold ofRows? at h
  split at h
  . rw [← Option.some.inj h]
  . simp at h

theorem rows_of_update? (h : t.update? p f = some t')
    : t'.rows = t.rows.map fun r => if p r then f r else r :=
  rows_of_ofRows? h

theorem mem_update? (h : t.update? p f = some t')
    : r ∈ t' ↔ (r ∈ t ∧ p r = false) ∨ ∃ r' ∈ t, p r' ∧ r = f r' := by
  rw [mem_def, rows_of_update? h, List.mem_map]
  constructor
  . rintro ⟨r', hr', rfl⟩
    by_cases hp : p r'
    . exact .inr ⟨r', hr', hp, by rw [if_pos hp]⟩
    . rw [if_neg hp]
      exact .inl ⟨hr', by simpa using hp⟩
  . rintro (⟨hr, hp⟩ | ⟨r', hr', hp, rfl⟩)
    . exact ⟨r, hr, by simp [hp]⟩
    . exact ⟨r', hr', by simp [hp]⟩

theorem update?_isSome (hcheck : ∀ r ∈ t, p r = true → TableSchema.check (f r))
    (hcompat : ∀ a b : α, TableSchema.compatible (if p a then f a else a) (if p b then f b else b)
        = TableSchema.compatible a b)
    : ∃ t', t.update? p f = some t' := by
  unfold update? ofRows?
  rw [dif_pos]
  . exact ⟨_, rfl⟩
  . constructor
    . intro r hr
      obtain ⟨r', hr', rfl⟩ := List.mem_map.mp hr
      by_cases hp : p r'
      . rw [if_pos hp]
        exact hcheck r' hr' hp
      . rw [if_neg hp]
        exact t.checked r' hr'
    . rw [List.pairwise_map]
      exact t.distinct.imp fun hab => by rw [hcompat]; exact hab

theorem eq_of_key {κ : Type} (key : α → κ) {a b : α} (ha : a ∈ t) (hb : b ∈ t) (h : key a = key b)
    (hkey : ∀ a b : α, TableSchema.compatible a b = true → key a ≠ key b := by
      simp +contextual [TableSchema.compatible]) : a = b := by
  have hnodup : (t.rows.map key).Nodup :=
    List.pairwise_map.mpr (t.distinct.imp fun hab => hkey _ _ hab)
  exact List.inj_on_of_nodup_map hnodup ha hb h

theorem mem_of_find? (h : t.find? p = some r)
    : r ∈ t ∧ p r = true :=
  ⟨List.mem_of_find?_eq_some h, List.find?_some h⟩

theorem find?_eq_none : t.find? p = none ↔ ∀ r ∈ t, p r = false := by
  simp [find?, mem_def]

theorem find?_eq_some (hr : r ∈ t) (hp : p r)
    (huniq : ∀ r' ∈ t, p r' = true → r' = r) : t.find? p = some r := by
  cases hfind : t.find? p with
  | none => simp [find?_eq_none.mp hfind r hr] at hp
  | some r' =>
    obtain ⟨hr', hp'⟩ := mem_of_find? hfind
    rw [huniq r' hr' hp']

theorem find?_key {κ : Type} [DecidableEq κ] (key : α → κ) (hr : r ∈ t)
    (hkey : ∀ a b : α, TableSchema.compatible a b = true → key a ≠ key b := by
      simp +contextual [TableSchema.compatible])
    : t.find? (fun x => key x = key r) = some r :=
  find?_eq_some hr (decide_eq_true rfl) fun _ hr' h =>
    eq_of_key key hr' hr (of_decide_eq_true h) hkey

end Table
