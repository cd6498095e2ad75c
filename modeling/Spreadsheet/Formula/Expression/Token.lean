/-!
# Tokens of arithmetic

An expression is cut into literals, operation signs and parentheses; blanks,
tabs, form feeds and line ends between them are skipped.  Each token knows the
column in which it starts, counted from one and anew on every line.

Result: scanning a literal leaves less text (`length_of_scanLiteral?`).
-/

namespace Spreadsheet
namespace Formula

/-- The kinds of token. -/
inductive Symbol where
  | literal (digits : List Char)
  | plus
  | minus
  | times
  | over
  | opening
  | closing
  /-- A character that starts no token. -/
  | stray
deriving DecidableEq, Repr

/-- A token and its column. -/
structure Token where
  symbol : Symbol
  column : Nat
deriving DecidableEq, Repr

/-- A character that is skipped between tokens. -/
def isGap (c : Char) : Bool :=
  c == ' ' || c == '\t' || c == '\x0c' || c == '\r' || c == '\n'

/-- The literal at the front of a text, and the rest: digits with at most one
point after or among them, or a point and digits. -/
def scanLiteral? (s : List Char) : Option (List Char × List Char) :=
  let whole := s.takeWhile Char.isDigit
  let rest := s.dropWhile Char.isDigit
  if whole.isEmpty then
    match rest with
    | '.' :: r =>
        let fraction := r.takeWhile Char.isDigit
        if fraction.isEmpty then none else some ('.' :: fraction, r.dropWhile Char.isDigit)
    | _ => none
  else
    match rest with
    | '.' :: r => some (whole ++ '.' :: r.takeWhile Char.isDigit, r.dropWhile Char.isDigit)
    | _ => some (whole, rest)

/-- The symbol that a single character is. -/
def symbolOf : Char → Symbol
  | '+' => .plus
  | '-' => .minus
  | '*' => .times
  | '/' => .over
  | '(' => .opening
  | ')' => .closing
  | _ => .stray

theorem length_dropWhile_le
    (p : Char → Bool) (s : List Char) :
    (s.dropWhile p).length ≤ s.length :=
  (List.dropWhile_suffix p).length_le

theorem length_of_scanLiteral?
    {s digits rest : List Char}
    (h : scanLiteral? s = some (digits, rest)) :
    rest.length < s.length := by
  have hsplit := List.takeWhile_append_dropWhile (p := Char.isDigit) (l := s)
  have hlen := congrArg List.length hsplit
  simp only [List.length_append] at hlen
  unfold scanLiteral? at h
  simp only at h
  split at h
  · split at h
    · next r hr =>
        split at h
        · simp at h
        · simp only [Option.some.injEq, Prod.mk.injEq] at h
          obtain ⟨-, rfl⟩ := h
          have := length_dropWhile_le Char.isDigit r
          rw [hr] at hlen
          simp only [List.length_cons] at hlen
          omega
    · simp at h
  · next hw =>
      have hpos : (s.takeWhile Char.isDigit).length ≠ 0 := by
        intro h0
        exact hw (by simp [List.length_eq_zero_iff.1 h0])
      split at h
      · next r hr =>
          simp only [Option.some.injEq, Prod.mk.injEq] at h
          obtain ⟨-, rfl⟩ := h
          have := length_dropWhile_le Char.isDigit r
          rw [hr] at hlen
          simp only [List.length_cons] at hlen
          omega
      · simp only [Option.some.injEq, Prod.mk.injEq] at h
        obtain ⟨-, rfl⟩ := h
        omega

/-- The tokens of a text that starts in a column. -/
def tokensFrom (column : Nat) (s : List Char) : List Token :=
  match s with
  | [] => []
  | c :: r =>
      if isGap c then
        tokensFrom (if c = '\n' then 1 else column + 1) r
      else
        match h : scanLiteral? (c :: r) with
        | some (digits, rest) =>
            ⟨.literal digits, column⟩ :: tokensFrom (column + digits.length) rest
        | none => ⟨symbolOf c, column⟩ :: tokensFrom (column + 1) r
termination_by s.length
decreasing_by
  · simp
  · exact length_of_scanLiteral? h
  · simp

/-- The tokens of a text. -/
def tokens (s : List Char) : List Token :=
  tokensFrom 1 s

end Formula
end Spreadsheet
