import Mathlib.Data.List.Infix

namespace Glob

inductive Token where
  | star
  | one
  | set (negated : Bool) (ranges : List (Char × Char))

def Token.literal (c : Char) : Token :=
  .set false [(c, c)]

def Token.accepts : Token → Char → Bool
  | .star, _ | .one, _ => true
  | .set negated ranges, c => (ranges.any fun range => range.1 ≤ c && c ≤ range.2) != negated

def ranges : List Char → List (Char × Char)
  | first :: '-' :: last :: cs => (first, last) :: ranges cs
  | c :: cs => (c, c) :: ranges cs
  | [] => []

/-- The set after a `[`, and its length up to the `]`, which is no end in the first place. -/
def bracket (cs : List Char) : Option (Token × ℕ) :=
  let negated := cs.head? == some '!'
  let body := if negated then cs.tail else cs
  let inner := body.take 1 ++ body.tail.takeWhile (· ≠ ']')
  if inner.length < body.length then
    some (.set negated (ranges inner), inner.length + 1 + if negated then 1 else 0)
  else none

/-- `fnmatch.translate`, after `skip` characters that a set has taken. -/
def tokens : ℕ → List Char → List Token
  | _, [] => []
  | skip + 1, _ :: cs => tokens skip cs
  | 0, '*' :: cs => .star :: tokens 0 cs
  | 0, '?' :: cs => .one :: tokens 0 cs
  | 0, '[' :: cs =>
    match bracket cs with
    | some (token, length) => token :: tokens length cs
    | none => .literal '[' :: tokens 0 cs
  | 0, c :: cs => .literal c :: tokens 0 cs

def accepts : List Token → List Char → Bool
  | [], name => name.isEmpty
  | .star :: ts, name => name.tails.any (accepts ts)
  | _ :: _, [] => false
  | t :: ts, c :: cs => t.accepts c && accepts ts cs

def found (pattern name : List Char) : Bool :=
  accepts (tokens 0 pattern) name

theorem tokens_plain (h : ∀ c ∈ plain, c ∉ ['*', '?', '[']) (cs : List Char)
    : tokens 0 (plain ++ cs) = plain.map .literal ++ tokens 0 cs := by
  induction plain with
  | nil => rfl
  | cons c plain ih =>
    obtain ⟨hc, hplain⟩ := List.forall_mem_cons.mp h
    simp only [List.mem_cons, List.not_mem_nil, or_false, not_or] at hc
    rw [List.cons_append, tokens, ih hplain]
    . rfl
    all_goals simp [hc]

theorem accepts_literals
    : accepts (plain.map .literal ++ ts) name = true ↔
      ∃ rest, name = plain ++ rest ∧ accepts ts rest = true := by
  induction plain generalizing name with
  | nil => simp
  | cons c plain ih =>
    cases name with
    | nil => simp [accepts, Token.literal]
    | cons d name =>
      have hchar : (Token.literal c).accepts d = true ↔ d = c := by
        suffices c ≤ d ∧ d ≤ c ↔ d = c by simpa [Token.literal, Token.accepts]
        exact ⟨fun h => Char.le_antisymm h.2 h.1, fun h => h ▸ ⟨Char.le_refl d, Char.le_refl d⟩⟩
      simp only [List.map_cons, List.cons_append, Token.literal, accepts, Bool.and_eq_true, ih]
      rw [← Token.literal, hchar]
      aesop

theorem found_plain (hfront : ∀ c ∈ front, c ∉ ['*', '?', '['])
    (hback : ∀ c ∈ back, c ∉ ['*', '?', '[']) (name : List Char)
    : found (front ++ '*' :: back) name = true ↔ ∃ middle, name = front ++ middle ++ back := by
  have hback' : tokens 0 back = back.map .literal ++ [] := by
    simpa [tokens] using tokens_plain hback []
  rw [found, tokens_plain hfront, accepts_literals, tokens, hback']
  simp only [accepts, List.any_eq_true, List.mem_tails, accepts_literals, List.isEmpty_iff]
  constructor
  . rintro ⟨_, rfl, _, ⟨middle, rfl⟩, _, rfl, rfl⟩
    exact ⟨middle, by simp⟩
  . rintro ⟨middle, rfl⟩
    exact ⟨middle ++ back, by simp, back, List.suffix_append .., [], by simp, rfl⟩

end Glob
