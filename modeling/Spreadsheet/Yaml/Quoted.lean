import Spreadsheet.Text.Digit
import Spreadsheet.Yaml.Glyph

/-!
# Quoted text in settings files

Text between quotes.  Between single quotes a quote is written twice; between
double quotes a backslash and a letter stand for a character.  The text may go
on over several lines; a line end in it counts as a blank, with the blanks
around it.

Results: only a quote ends such a text (`readQuoted_nil`), and a quote right
after the first one leaves nothing between them (`readQuoted_closed`).
-/

namespace Spreadsheet
namespace Yaml

/-- What a letter behind a backslash stands for. -/
def escapedChar? : Char → Option Char
  | '0' => some '\x00'
  | 'a' => some '\x07'
  | 'b' => some '\x08'
  | 't' | '\t' => some '\t'
  | 'n' => some '\n'
  | 'v' => some '\x0b'
  | 'f' => some '\x0c'
  | 'r' => some '\r'
  | 'e' => some '\x1b'
  | ' ' => some ' '
  | '"' => some '"'
  | '/' => some '/'
  | '\\' => some '\\'
  | 'N' => some '\u0085'
  | '_' => some '\u00a0'
  | 'L' => some '\u2028'
  | 'P' => some '\u2029'
  | _ => none

/-- How many hexadecimal digits follow a letter behind a backslash. -/
def escapeWidth? : Char → Option Nat
  | 'x' => some 2
  | 'u' => some 4
  | 'U' => some 8
  | _ => none

/-- The value of a digit to a base of at most sixteen. -/
def digitValue? (base : Nat) (c : Char) : Option Nat :=
  let value :=
    if c.isDigit then c.toNat - '0'.toNat
    else if 'a' ≤ c ∧ c ≤ 'f' then c.toNat - 'a'.toNat + 10
    else if 'A' ≤ c ∧ c ≤ 'F' then c.toNat - 'A'.toNat + 10
    else base
  if value < base then some value else none

/-- The number that digits to a base write. -/
def digits? (base : Nat) (s : List Char) : Option Nat :=
  s.foldlM (fun n c => (digitValue? base c).map fun d => n * base + d) 0

/-- The largest code that is looked up at all. -/
def codeLimit : Nat := Nat.pow 2 31

/-- The character with a code that a text gives in so many digits. -/
def charOfCode (width : Nat) (digits : List Char) : Except Fault Char :=
  match digits? 16 digits with
  | some n =>
      if digits.length < width then .error (.unreadableSettings .token)
      else if n.isValidChar then .ok (Char.ofNat n)
      else if n < codeLimit then .error .unrepresentable
      else .error .tooLarge
  | none => .error (.unreadableSettings .token)

/-- A blank inside a line. -/
def isBlank (c : Char) : Bool := c == ' ' || c == '\t'

/-- What a quoted text holds up to its next character of its own, and what
follows: a run of blanks, which is dropped before the end of a line. -/
def quotedGap (s : List Glyph) : Except Fault (List Char × List Glyph) :=
  match s.dropWhile fun g => isBlank g.char with
  | [] => .error (.unreadableSettings .token)
  | g :: rest =>
      if isLineEnd g.char then
        match emptyLines isBlank rest with
        | (some more, after) => .ok (folded g.char more, after)
        | (none, _) => .error (.unreadableSettings .token)
      else
        .ok ((s.takeWhile fun g => isBlank g.char).map Glyph.char, g :: rest)

/-- What a backslash and what follows it stand for, and the rest. -/
def escaped : List Glyph → Except Fault (List Char × List Glyph)
  | [] => .error (.unreadableSettings .token)
  | g :: rest =>
      match escapedChar? g.char, escapeWidth? g.char with
      | some c, _ => .ok ([c], rest)
      | none, some width => do
          let c ← charOfCode width ((rest.take width).map Glyph.char)
          return ([c], rest.drop width)
      | none, none =>
          if isLineEnd g.char then
            match emptyLines isBlank rest with
            | (some more, after) => .ok (more, after)
            | (none, _) => .error (.unreadableSettings .token)
          else
            .error (.unreadableSettings .token)

section Lemmas

theorem length_lt_of_escaped
    {s after : List Glyph} {part : List Char}
    (h : escaped s = .ok (part, after)) :
    after.length < s.length := by
  cases s with
  | nil => simp [escaped] at h
  | cons g rest =>
      simp only [escaped] at h
      split at h
      · obtain ⟨-, rfl⟩ := Prod.mk.inj (Except.ok.inj h)
        simp
      · next width _ _ =>
          cases hc : charOfCode width ((rest.take width).map Glyph.char) with
          | error cause => simp only [hc, bind, Except.bind, reduceCtorEq] at h
          | ok c =>
              simp only [hc, bind, Except.bind, pure, Except.pure, Except.ok.injEq,
                Prod.mk.injEq] at h
              obtain ⟨-, rfl⟩ := h
              simp only [List.length_drop, List.length_cons]
              omega
      · split at h
        · split at h
          · next more later hlines =>
              obtain ⟨-, rfl⟩ := Prod.mk.inj (Except.ok.inj h)
              have hlater := length_emptyLines_le isBlank rest
              rw [hlines] at hlater
              simp only [List.length_cons] at hlater ⊢
              omega
          · simp at h
        · simp at h

theorem length_lt_of_quotedGap
    {g : Glyph} {rest after : List Glyph} {part : List Char}
    (hgap : isGap g.char = true)
    (h : quotedGap (g :: rest) = .ok (part, after)) :
    after.length < (g :: rest).length := by
  have hle : ((g :: rest).dropWhile fun g => isBlank g.char).length ≤ (g :: rest).length :=
    (List.dropWhile_sublist _).length_le
  unfold quotedGap at h
  split at h
  · simp at h
  · next d later hd =>
      rw [hd] at hle
      split at h
      · split at h
        · next more end_ hlines =>
            obtain ⟨-, rfl⟩ := Prod.mk.inj (Except.ok.inj h)
            have hlater := length_emptyLines_le isBlank later
            rw [hlines] at hlater
            simp only [List.length_cons] at hle hlater ⊢
            omega
        · simp at h
      · next hline =>
          obtain ⟨-, rfl⟩ := Prod.mk.inj (Except.ok.inj h)
          by_cases hblank : isBlank g.char = true
          · have hrest : (rest.dropWhile fun g => isBlank g.char).length ≤ rest.length :=
              (List.dropWhile_sublist _).length_le
            rw [List.dropWhile_cons, if_pos hblank] at hd
            rw [hd] at hrest
            simp only [List.length_cons] at hrest ⊢
            omega
          · rw [List.dropWhile_cons, if_neg hblank] at hd
            obtain ⟨rfl, rfl⟩ := List.cons.inj hd
            simp only [isGap, isBlank, Bool.or_eq_true, Bool.not_eq_true] at *
            simp_all

end Lemmas

/-- The text up to a quote, and what follows the quote. -/
def readQuoted (quote : Char) : List Glyph → Except Fault (List Char × List Glyph)
  | [] => .error (.unreadableSettings .token)
  | g :: rest =>
      if g.char = quote then
        match quote, rest with
        | '\'', next :: later =>
            if next.char = '\'' then do
              let (s, after) ← readQuoted quote later
              return ('\'' :: s, after)
            else
              .ok ([], next :: later)
        | _, rest => .ok ([], rest)
      else if quote = '"' ∧ g.char = '\\' then
        match h : escaped rest with
        | .error cause => .error cause
        | .ok (part, later) => do
            have : later.length < rest.length := length_lt_of_escaped h
            let (s, after) ← readQuoted quote later
            return (part ++ s, after)
      else if hgap : isGap g.char then
        match h : quotedGap (g :: rest) with
        | .error cause => .error cause
        | .ok (part, later) => do
            have : later.length < (g :: rest).length := length_lt_of_quotedGap hgap h
            let (s, after) ← readQuoted quote later
            return (part ++ s, after)
      else do
        let (s, after) ← readQuoted quote rest
        return (g.char :: s, after)
termination_by s => s.length
decreasing_by all_goals simp_all <;> omega

section Lemmas

theorem readQuoted_nil
    (quote : Char) :
    readQuoted quote [] = .error (.unreadableSettings .token) := by
  simp [readQuoted]

theorem readQuoted_closed
    (g : Glyph)
    (h : g.char = '"') :
    readQuoted '"' [g] = .ok ([], []) := by
  simp [readQuoted, h]

end Lemmas

end Yaml
end Spreadsheet
