import ConstitutionalSwarm.Data.Glob
import Mathlib.Data.Set.Insert

namespace Mesh.Orphans

open List

abbrev Name := List Char

def receiptSuffix : Name := ".receipt.json".toList

def receiptPathFor (store assignmentId : Name) : Name :=
  store ++ '.' :: (assignmentId ++ receiptSuffix)

def parseReceiptAssignmentId (store name : Name) : Option Name :=
  let body := name.take (name.length - receiptSuffix.length)
  if receiptSuffix <:+ name ∧ store ++ ['.'] <+: body ∧ body.drop (store.length + 1) ≠ [] then
    some (body.drop (store.length + 1))
  else none

/-- The store's name stands in the pattern as it is, with its metacharacters. -/
def globbed (store name : Name) : Bool :=
  Glob.found (store ++ '.' :: '*' :: receiptSuffix) name

inductive Phase where
  | idle
  | persisting (store assignmentId : Name)
  | written (store assignmentId : Name)
  | failed (store assignmentId : Name)
  | reconciling (store : Name) (orphans : List Name)

def Phase.locks : Phase → Name → Prop
  | .idle, _ => False
  | .persisting store _, n | .written store _, n | .failed store _, n | .reconciling store _, n =>
    store = n

structure Directory where
  files : List Name
  committed : Name → List Name
  phases : ℕ → Phase

namespace Directory

variable (d : Directory)

def enter (p : ℕ) (phase : Phase) : Directory :=
  { d with phases := Function.update d.phases p phase }

def write (name : Name) : Directory :=
  { d with files := name :: d.files }

def unlink (name : Name) : Directory :=
  { d with files := d.files.filter (· ≠ name) }

def commit (store assignmentId : Name) : Directory :=
  { d with committed := Function.update d.committed store (assignmentId :: d.committed store) }

def Unlocked (store : Name) : Prop :=
  ∀ p, ¬(d.phases p).locks store

@[simp]
theorem enter_self (p : ℕ) (phase : Phase) : (d.enter p phase).phases p = phase := by
  simp [enter]

end Directory

section Steps

variable (stores : Set Name)

inductive Step (d : Directory) : Directory → Prop
  | persist {p : ℕ} {store assignmentId : Name} (hstore : store ∈ stores) (hid : assignmentId ≠ [])
      (hlock : d.Unlocked store) (hnew : assignmentId ∉ d.committed store)
      : Step d (d.enter p (.persisting store assignmentId))
  | again {store assignmentId : Name} (hstore : store ∈ stores) (hlock : d.Unlocked store)
      (hcommitted : assignmentId ∈ d.committed store) : Step d (d.commit store assignmentId)
  | write {p : ℕ} {store assignmentId : Name} (hphase : d.phases p = .persisting store assignmentId)
      : Step d ((d.write (receiptPathFor store assignmentId)).enter p (.written store assignmentId))
  /-- The settlement is durable, also when `append` raises after that. -/
  | append {p : ℕ} {store assignmentId : Name} {raised : Bool}
      (hphase : d.phases p = .written store assignmentId)
      : Step d ((d.commit store assignmentId).enter p
          (if raised then .failed store assignmentId else .idle))
  | refuse {p : ℕ} {store assignmentId : Name} (hphase : d.phases p = .written store assignmentId)
      : Step d (d.enter p (.failed store assignmentId))
  | rollback {p : ℕ} {store assignmentId : Name} (hphase : d.phases p = .failed store assignmentId)
      (hnone : assignmentId ∉ d.committed store)
      : Step d ((d.unlink (receiptPathFor store assignmentId)).enter p .idle)
  /-- The listing is not atomic, so any of the orphans may be missing from it. -/
  | reconcile {p : ℕ} {store : Name} {orphans : List Name} (hstore : store ∈ stores)
      (hlock : d.Unlocked store) (horphans : ∀ name ∈ orphans, globbed store name = true ∧
        ∀ assignmentId, parseReceiptAssignmentId store name = some assignmentId →
          assignmentId ∉ d.committed store)
      : Step d (d.enter p (.reconciling store orphans))
  | unlink {p : ℕ} {store name : Name} {orphans : List Name}
      (hphase : d.phases p = .reconciling store (name :: orphans))
      : Step d ((d.unlink name).enter p (.reconciling store orphans))
  | release {p : ℕ} : Step d (d.enter p .idle)

def Safe (d : Directory) : Prop :=
  ∀ store ∈ stores, ∀ assignmentId ∈ d.committed store, receiptPathFor store assignmentId ∈ d.files

inductive Reaches : Directory → Prop
  | start {d : Directory} (hidle : ∀ p, d.phases p = .idle) (hsafe : Safe stores d)
      (hids : ∀ store, [] ∉ d.committed store) : Reaches d
  | step {d d' : Directory} (h : Reaches d) (hstep : Step stores d d') : Reaches d'

def Separate : Prop :=
  ∀ store ∈ stores, ∀ other ∈ stores, ∀ rest, other ≠ store ++ '.' :: rest

structure Apart : Prop where
  separate : Separate stores
  unfound : ∀ store ∈ stores, ∀ other ∈ stores, store ≠ other → ∀ assignmentId ≠ [],
    globbed store (receiptPathFor other assignmentId) = false

variable {stores}

theorem parse_receiptPathFor (h : assignmentId ≠ [])
    : parseReceiptAssignmentId store (receiptPathFor store assignmentId) = some assignmentId := by
  have hname : receiptPathFor store assignmentId
      = (store ++ ['.'] ++ assignmentId) ++ receiptSuffix := by
    simp [receiptPathFor]
  have hlen : (store ++ ['.']).length = store.length + 1 := by simp
  rw [parseReceiptAssignmentId, hname, length_append, Nat.add_sub_cancel, take_left,
    ← hlen, drop_left, if_pos ⟨suffix_append .., prefix_append .., h⟩]

theorem eq_of_receiptPathFor (hsep : Separate stores)
    (hstore : store ∈ stores) (hother : other ∈ stores)
    (h : receiptPathFor store a = receiptPathFor other b) : store = other ∧ a = b := by
  have hbody : store ++ '.' :: a = other ++ '.' :: b := by
    have hsuffix : (store ++ '.' :: a) ++ receiptSuffix = (other ++ '.' :: b) ++ receiptSuffix := by
      simpa [receiptPathFor] using h
    exact append_cancel_right hsuffix
  rcases append_eq_append_iff.mp hbody with ⟨rest, hrest, hcons⟩ | ⟨rest, hrest, hcons⟩
  . cases rest with
    | nil => exact ⟨by simpa using hrest.symm, (cons.inj hcons).2⟩
    | cons c rest =>
      obtain ⟨rfl, -⟩ := cons.inj hcons
      exact absurd hrest (hsep _ hstore _ hother rest)
  . cases rest with
    | nil => exact ⟨by simpa using hrest, (cons.inj hcons).2.symm⟩
    | cons c rest =>
      obtain ⟨rfl, -⟩ := cons.inj hcons
      exact absurd hrest (hsep _ hother _ hstore rest)

def Phase.Holds (stores : Set Name) (files : List Name)
    (committed : Name → List Name) : Phase → Prop
  | .idle => True
  | .persisting store assignmentId | .failed store assignmentId =>
    store ∈ stores ∧ assignmentId ≠ []
  | .written store assignmentId =>
    store ∈ stores ∧ assignmentId ≠ [] ∧ receiptPathFor store assignmentId ∈ files
  | .reconciling store orphans => store ∈ stores ∧ ∀ name ∈ orphans, globbed store name = true ∧
      ∀ assignmentId, parseReceiptAssignmentId store name = some assignmentId →
        assignmentId ∉ committed store

structure Invariant (stores : Set Name) (d : Directory) : Prop where
  safe : Safe stores d
  named : ∀ store, [] ∉ d.committed store
  lock : ∀ p q store, (d.phases p).locks store → (d.phases q).locks store → p = q
  holds : ∀ p, (d.phases p).Holds stores d.files d.committed

variable {d : Directory} {p : ℕ}

theorem Invariant.enter (h : Invariant stores d) {committed : Name → List Name}
    (hsafe : Safe stores ⟨files, committed, d.phases⟩) (hnamed : ∀ store, [] ∉ committed store)
    (hlock : ∀ store, phase.locks store → (d.phases p).locks store ∨ d.Unlocked store)
    (hphase : phase.Holds stores files committed)
    (hothers : ∀ q, q ≠ p → (d.phases q).Holds stores files committed)
    : Invariant stores (Directory.enter ⟨files, committed, d.phases⟩ p phase) where
  safe := hsafe
  named := hnamed
  lock := by
    intro q r store hq hr
    simp only [Directory.enter, Function.update_apply] at hq hr
    split at hq <;> split at hr
    . next hqp hrp => rw [hqp, hrp]
    . next hqp hrp =>
      rcases hlock store hq with hp | hfree
      . exact hqp.trans (h.lock _ _ _ hp hr)
      . exact absurd hr (hfree r)
    . next hqp hrp =>
      rcases hlock store hr with hp | hfree
      . exact (h.lock _ _ _ hq hp).trans hrp.symm
      . exact absurd hq (hfree q)
    . exact h.lock _ _ _ hq hr
  holds := by
    intro q
    by_cases hq : q = p
    . simpa only [hq, Directory.enter, Function.update_self] using hphase
    . simpa only [Directory.enter, Function.update_of_ne hq] using hothers q hq

theorem Phase.Holds.files_of_mem {phase : Phase} {files files' : List Name}
    {committed : Name → List Name} (h : phase.Holds stores files committed)
    (hfiles : ∀ store ∈ stores, ∀ aid, phase = .written store aid →
      receiptPathFor store aid ∈ files → receiptPathFor store aid ∈ files')
    : phase.Holds stores files' committed := by
  cases phase with
  | written store aid => exact ⟨h.1, h.2.1, hfiles _ h.1 _ rfl h.2.2⟩
  | idle | persisting _ _ | failed _ _ | reconciling _ _ => exact h

theorem Phase.Holds.commit {phase : Phase} {store aid : Name}
    (h : phase.Holds stores d.files d.committed) (hlock : ¬phase.locks store)
    : phase.Holds stores d.files (d.commit store aid).committed := by
  cases phase with
  | reconciling other orphans =>
    simpa only [Phase.Holds, Directory.commit, Function.update_of_ne hlock] using h
  | idle | persisting _ _ | failed _ _ | written _ _ => exact h

theorem Invariant.safe_commit (h : Invariant stores d)
    (hid : aid ≠ []) (hfile : receiptPathFor store aid ∈ d.files)
    : Safe stores (d.commit store aid) ∧
      ∀ other, [] ∉ (d.commit store aid).committed other := by
  constructor
  . intro other hother a ha
    by_cases hsame : other = store
    . simp only [Directory.commit, hsame, Function.update_self] at ha
      rcases mem_cons.mp ha with rfl | ha
      . exact hsame ▸ hfile
      . exact hsame ▸ h.safe store (hsame ▸ hother) a ha
    . simp only [Directory.commit, Function.update_of_ne hsame] at ha
      exact h.safe other hother a ha
  . intro other
    by_cases hsame : other = store
    . simp only [Directory.commit, hsame, Function.update_self, mem_cons, not_or]
      exact ⟨hid.symm, h.named store⟩
    . simpa only [Directory.commit, Function.update_of_ne hsame] using h.named other

theorem Invariant.unlink (h : Invariant stores d) {name : Name} {phase : Phase}
    (hlock : ∀ store, phase.locks store → (d.phases p).locks store)
    (hcomm : ∀ store ∈ stores, ∀ aid ∈ d.committed store,
      receiptPathFor store aid ≠ name)
    (hwritten : ∀ q store, q ≠ p → store ∈ stores → ∀ aid,
      d.phases q = .written store aid → receiptPathFor store aid ≠ name)
    (hphase : phase.Holds stores (d.unlink name).files d.committed)
    : Invariant stores ((d.unlink name).enter p phase) := by
  have hkept {f : Name} (hf : f ∈ d.files) (hne : f ≠ name) : f ∈ (d.unlink name).files :=
    mem_filter.mpr ⟨hf, by simpa using hne⟩
  refine h.enter ?_ h.named (fun store hs => .inl (hlock store hs)) hphase fun q hq => ?_
  . intro store hstore a ha
    exact hkept (h.safe store hstore a ha) (hcomm store hstore a ha)
  . exact (h.holds q).files_of_mem fun store hstore a hw hf =>
      hkept hf (hwritten q store hq hstore a hw)

theorem Invariant.step (hapart : Apart stores) (h : Invariant stores d) {d' : Directory}
    (hstep : Step stores d d') : Invariant stores d' := by
  -- The file of one store is never that of another.
  have hown {n m a b : Name} (hn : n ∈ stores) (hm : m ∈ stores)
      (hpath : receiptPathFor m b = receiptPathFor n a) : m = n ∧ b = a :=
    eq_of_receiptPathFor hapart.separate hm hn hpath
  cases hstep with
  | persist hstore hid hlock hnew =>
    exact h.enter h.safe h.named (fun n hn => .inr (hn ▸ hlock)) ⟨hstore, hid⟩ fun q _ => h.holds q
  | @again store a hstore hlock hcomm =>
    have hid : a ≠ [] := fun hempty => h.named store (hempty ▸ hcomm)
    obtain ⟨hsafe, hnamed⟩ := h.safe_commit hid (h.safe store hstore a hcomm)
    exact ⟨hsafe, hnamed, h.lock, fun q => (h.holds q).commit (hlock q)⟩
  | @write p store a hphase =>
    have hp : _ ∧ _ := hphase ▸ h.holds p
    refine h.enter (fun n hn b hb => mem_cons_of_mem _ (h.safe n hn b hb)) h.named
      (fun n hn => .inl ?_) ⟨hp.1, hp.2, mem_cons_self⟩ fun q _ => ?_
    . rw [hphase]
      exact hn
    . exact (h.holds q).files_of_mem fun _ _ _ _ => mem_cons_of_mem _
  | @append p store a raised hphase =>
    have hp : _ ∧ _ ∧ _ := hphase ▸ h.holds p
    obtain ⟨hsafe, hnamed⟩ := h.safe_commit hp.2.1 hp.2.2
    refine h.enter hsafe hnamed (fun n hn => .inl ?_) ?_ fun q hq => ?_
    . rw [hphase]
      cases raised with
      | true => exact hn
      | false => exact hn.elim
    . cases raised with
      | true => exact ⟨hp.1, hp.2.1⟩
      | false => trivial
    . refine (h.holds q).commit fun hlocks => hq (h.lock q p store hlocks ?_)
      rw [hphase]
      rfl
  | @refuse p store a hphase =>
    have hp : _ ∧ _ ∧ _ := hphase ▸ h.holds p
    refine h.enter h.safe h.named (fun n hn => .inl ?_) ⟨hp.1, hp.2.1⟩ fun q _ => h.holds q
    rw [hphase]
    exact hn
  | @rollback p store a hphase hnone =>
    have hp : _ ∧ _ := hphase ▸ h.holds p
    refine h.unlink (fun _ hn => hn.elim) ?_ ?_ trivial
    . intro n hn b hb hpath
      obtain ⟨rfl, rfl⟩ := hown hp.1 hn hpath
      exact hnone hb
    . intro q n hq hn b hw hpath
      obtain ⟨rfl, rfl⟩ := hown hp.1 hn hpath
      refine hq (h.lock q p n ?_ ?_)
      . rw [hw]
        rfl
      . rw [hphase]
        rfl
  | reconcile hstore hlock horphans =>
    exact h.enter h.safe h.named (fun n hn => .inr (hn ▸ hlock)) ⟨hstore, horphans⟩
      fun q _ => h.holds q
  | @unlink p store name orphans hphase =>
    have hp : store ∈ stores ∧ _ := hphase ▸ h.holds p
    obtain ⟨hfound, horphan⟩ := hp.2 name mem_cons_self
    have hsame {n b : Name} (hn : n ∈ stores) (hb : b ≠ []) (hpath : receiptPathFor n b = name)
        : store = n := by
      by_contra hne
      rw [← hpath, hapart.unfound store hp.1 n hn hne b hb] at hfound
      cases hfound
    refine h.unlink (fun n hn => ?_) ?_ ?_ ⟨hp.1, fun f hf => hp.2 f (mem_cons_of_mem _ hf)⟩
    . rw [hphase]
      exact hn
    . intro n hn b hb hpath
      have hid : b ≠ [] := fun hempty => h.named n (hempty ▸ hb)
      obtain rfl := hsame hn hid hpath
      exact horphan b (hpath ▸ parse_receiptPathFor hid) hb
    . intro q n hq hn b hw hpath
      have hwritten : _ ∧ _ ∧ _ := hw ▸ h.holds q
      obtain rfl := hsame hn hwritten.2.1 hpath
      refine hq (h.lock q p store ?_ ?_)
      . rw [hw]
        rfl
      . rw [hphase]
        rfl
  | release => exact h.enter h.safe h.named (fun _ hn => nomatch hn) trivial fun q _ => h.holds q

def vacant : Directory :=
  ⟨[], fun _ => [], fun _ => .idle⟩

theorem reaches_vacant : Reaches stores vacant :=
  .start (fun _ => rfl) (fun _ _ _ ha => nomatch ha) fun _ ha => nomatch ha

theorem exists_lost_of_globbed {store other a : Name} (hstore : store ∈ stores)
    (hother : other ∈ stores) (hne : store ≠ other) (ha : a ≠ [])
    (hfound : globbed store (receiptPathFor other a) = true)
    : ∃ d, Reaches stores d ∧ ¬Safe stores d := by
  have hpersist : Reaches stores (vacant.enter 0 (.persisting other a)) :=
    reaches_vacant.step (.persist hother ha (fun _ hlocks => hlocks) not_mem_nil)
  have hwrite := hpersist.step (.write (Directory.enter_self ..))
  have hcommit := hwrite.step (@Step.append _ _ 0 other a false (Directory.enter_self ..))
  have hreconcile := hcommit.step (@Step.reconcile _ _ 0 store [receiptPathFor other a]
    hstore (fun p hlocks => ?_) (forall_mem_singleton.mpr ⟨hfound, fun a _ => ?_⟩))
  . refine ⟨_, hreconcile.step (.unlink (Directory.enter_self ..)), fun hsafe => ?_⟩
    have hlost := hsafe other hother a (by simp [Directory.enter, Directory.commit,
      Directory.unlink])
    simp [Directory.enter, Directory.unlink] at hlost
  . by_cases hp : p = 0
    . simp [Directory.enter, hp, Phase.locks] at hlocks
    . simp [Directory.enter, Directory.commit, Directory.write, vacant, Phase.locks] at hlocks
  . simp [Directory.enter, Directory.commit, Directory.write, Function.update_of_ne hne, vacant]

/-- A rollback removes the file that both stores have written. -/
theorem exists_lost_of_extends {store rest : Name} (hstore : store ∈ stores)
    (hother : store ++ '.' :: rest ∈ stores) : ∃ d, Reaches stores d ∧ ¬Safe stores d := by
  let other := store ++ '.' :: rest
  have hne : store ≠ other := fun heq => by simpa [other] using congrArg length heq
  have hpath : receiptPathFor store (rest ++ ['.', 'x']) = receiptPathFor other ['x'] := by
    simp [receiptPathFor, other]
  have hpersist : Reaches stores (vacant.enter 0 (.persisting store (rest ++ ['.', 'x']))) :=
    reaches_vacant.step (.persist hstore (by simp) (fun _ hlocks => hlocks) not_mem_nil)
  have hrefused := (hpersist.step (.write (Directory.enter_self ..))).step
    (.refuse (Directory.enter_self ..))
  have hsecond := hrefused.step (@Step.persist _ _ 1 other ['x'] hother (by simp)
    (fun p hlocks => ?_) not_mem_nil)
  . have hcommit := (hsecond.step (.write (Directory.enter_self ..))).step
      (@Step.append _ _ 1 other ['x'] false (Directory.enter_self ..))
    have hrollback := hcommit.step (@Step.rollback _ _ 0 store (rest ++ ['.', 'x'])
      (by simp [Directory.enter, Directory.commit, Directory.write])
      (by simp [Directory.enter, Directory.commit, Directory.write, Function.update_of_ne hne,
        vacant]))
    refine ⟨_, hrollback, fun hsafe => ?_⟩
    have hlost := hsafe other hother ['x'] (by simp [Directory.enter, Directory.commit,
      Directory.unlink])
    simp [Directory.enter, Directory.unlink, hpath] at hlost
  . by_cases hp : p = 0
    . simp only [Directory.enter, hp, Function.update_self] at hlocks
      exact hne hlocks
    . simp [Directory.enter, Directory.write, vacant, Phase.locks, hp] at hlocks

theorem Separate.apart (h : Separate stores)
    (hplain : ∀ store ∈ stores, ∀ c ∈ store, c ∉ ['*', '?', '[']) : Apart stores where
  separate := h
  unfound := by
    intro store hstore other hother hne a _
    rw [Bool.eq_false_iff]
    intro hfound
    have hdot : ∀ c ∈ store ++ ['.'], c ∉ ['*', '?', '['] :=
      forall_mem_append.mpr ⟨hplain store hstore, by decide⟩
    rw [globbed, append_cons, Glob.found_plain hdot (by decide)] at hfound
    obtain ⟨b, hb⟩ := hfound
    have hpath : receiptPathFor store b = receiptPathFor other a := by
      rw [hb]
      simp [receiptPathFor]
    exact hne (eq_of_receiptPathFor h hstore hother hpath).1

/--
The names of the stores alone decide whether committed receipts are kept: no name may go on from
another after a dot, and none may be a pattern that finds a receipt of another store.
-/
theorem receipts_kept_iff (stores : Set Name)
    : ((∀ d, Reaches stores d → Safe stores d) ↔ Apart stores) ∧
      ((∀ store ∈ stores, ∀ c ∈ store, c ∉ ['*', '?', '[']) →
        ((∀ d, Reaches stores d → Safe stores d) ↔ Separate stores)) := by
  have hkept : (∀ d, Reaches stores d → Safe stores d) ↔ Apart stores := by
    constructor
    . intro hsafe
      constructor
      . rintro store hstore other hother rest rfl
        obtain ⟨d, hd, hlost⟩ := exists_lost_of_extends hstore hother
        exact hlost (hsafe d hd)
      . intro store hstore other hother hne a ha
        by_contra hfound
        obtain ⟨d, hd, hlost⟩ := exists_lost_of_globbed hstore hother hne ha
          (Bool.eq_true_of_not_eq_false hfound)
        exact hlost (hsafe d hd)
    . intro hapart d hd
      refine (?_ : Invariant stores d).safe
      induction hd with
      | start hidle hsafe hids =>
        refine ⟨hsafe, hids, fun p q store hp => ?_, fun p => ?_⟩
        . rw [hidle p] at hp
          exact hp.elim
        . rw [hidle p]
          trivial
      | step _ hstep ih => exact ih.step hapart hstep
  exact ⟨hkept, fun hplain => hkept.trans ⟨Apart.separate, fun h => h.apart hplain⟩⟩

end Steps

namespace Sample

/-- The stores `a` and `a.b` share a directory. -/
theorem receipt_lost : ∃ d, Reaches {['a'], ['a', '.', 'b']} d ∧
    ¬Safe {['a'], ['a', '.', 'b']} d :=
  @exists_lost_of_globbed {['a'], ['a', '.', 'b']} ['a'] ['a', '.', 'b'] ['x'] (by simp) (by simp)
    (by decide) (by decide) (by decide)

/-- Neither name goes on from the other, but the pattern of `?` finds the receipts of `a`. -/
theorem receipt_lost_to_pattern : Separate {['?'], ['a']} ∧ ∃ d, Reaches {['?'], ['a']} d ∧
    ¬Safe {['?'], ['a']} d :=
  ⟨by simp [Separate], @exists_lost_of_globbed {['?'], ['a']} ['?'] ['a'] ['x'] (by simp) (by simp)
    (by decide) (by decide) (by decide)⟩

theorem receipts_kept_iff_separate
    : Separate {['a'], ['b']} ∧ ∀ d, Reaches {['a'], ['b']} d → Safe {['a'], ['b']} d := by
  have hsep : Separate {['a'], ['b']} := by simp [Separate]
  exact ⟨hsep, ((receipts_kept_iff _).2 (by simp)).mpr hsep⟩

end Sample

end Mesh.Orphans
