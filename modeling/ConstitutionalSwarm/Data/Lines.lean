import Mathlib.Data.List.Basic

namespace Lines

def universal : List Char → List Char
  | [] => []
  | '\r' :: '\n' :: cs => '\n' :: universal cs
  | '\r' :: cs => '\n' :: universal cs
  | c :: cs => c :: universal cs

def readlines : List Char → List (List Char)
  | [] => []
  | c :: cs =>
    if c = '\n' then [c] :: readlines cs
    else match readlines cs with
      | [] => [[c]]
      | line :: lines => (c :: line) :: lines

theorem universal_of_notMem {cs : List Char} (h : '\r' ∉ cs) : universal cs = cs := by
  induction cs with
  | nil => rfl
  | cons c cs ih =>
    obtain ⟨hc, hcs⟩ := not_or.mp (mt List.mem_cons.mpr h)
    rw [universal, ih hcs]
    . rintro _ rfl _
      exact hc rfl
    . rintro rfl
      exact hc rfl

theorem readlines_cons_append {line : List Char} (h : '\n' ∉ line) (rest : List Char)
    : readlines (line ++ '\n' :: rest) = (line ++ ['\n']) :: readlines rest := by
  induction line with
  | nil => rfl
  | cons c line ih =>
    obtain ⟨hc, hline⟩ := not_or.mp (mt List.mem_cons.mpr h)
    rw [List.cons_append, readlines, if_neg (Ne.symm hc), ih hline]
    rfl

theorem readlines_of_notMem {line : List Char} (h : '\n' ∉ line) (hne : line ≠ [])
    : readlines line = [line] := by
  induction line with
  | nil => exact absurd rfl hne
  | cons c line ih =>
    obtain ⟨hc, hline⟩ := not_or.mp (mt List.mem_cons.mpr h)
    rw [readlines, if_neg (Ne.symm hc)]
    cases line with
    | nil => rfl
    | cons d line => rw [ih hline (List.cons_ne_nil d line)]

def isBoundary (c : Char) : Bool :=
  c = '\n' || c = '\r' || c = '\x0b' || c = '\x0c' || c = '\x1c' || c = '\x1d' || c = '\x1e' ||
    c = '\x85' || c = '\u2028' || c = '\u2029'

def splitlines : List Char → List (List Char)
  | [] => []
  | '\r' :: '\n' :: cs => [] :: splitlines cs
  | c :: cs =>
    if isBoundary c then [] :: splitlines cs
    else match splitlines cs with
      | [] => [[c]]
      | line :: lines => (c :: line) :: lines

theorem splitlines_cons {b : Char} (hb : b ≠ '\r') (rest : List Char)
    : splitlines (b :: rest) =
      if isBoundary b then [] :: splitlines rest
      else match splitlines rest with
        | [] => [[b]]
        | line :: lines => (b :: line) :: lines := by
  rw [splitlines]
  rintro _ rfl
  exact absurd rfl hb

theorem splitlines_append {line : List Char} (h : ∀ c ∈ line, isBoundary c = false) {b : Char}
    (hb : isBoundary b) (hreturn : b ≠ '\r') (rest : List Char)
    : splitlines (line ++ b :: rest) = line :: splitlines rest := by
  induction line with
  | nil => rw [List.nil_append, splitlines_cons hreturn, if_pos hb]
  | cons c line ih =>
    obtain ⟨hc, hline⟩ := List.forall_mem_cons.mp h
    have hne : c ≠ '\r' := by
      rintro rfl
      cases hc
    rw [List.cons_append, splitlines_cons hne, hc, ih hline]
    rfl

end Lines
