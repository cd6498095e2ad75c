import Spreadsheet.Formula.Comparison
import Spreadsheet.Text.Blank

/-!
# Arguments

Cutting the text between the parentheses of a function.  Commas separate
arguments and comparison signs separate the operands of a condition, unless
they stand inside double quotes or inside further parentheses.  A double quote
inside quoted text is written twice.

Results: the parts of a cut are no longer than the whole
(`length_le_of_mem_splitArguments`, `length_le_of_splitComparison`), and a
quoted text reads back (`unquote_quote`).
-/

namespace Spreadsheet
namespace Formula

/-- The arguments of a text that goes on from `position` at some depth of
parentheses, inside or outside quotes, with `current` (reversed) already read
of the first of them. -/
def scanArguments (position depth : Nat) (inQuotes : Bool) (current : List Char) :
    List Char → Except SyntaxFault (List (List Char))
  | [] =>
      if inQuotes then .error .unterminatedText
      else if depth ≠ 0 then .error .missingClosing
      else .ok [Text.trim current.reverse]
  | c :: s =>
      if c = '"' then
        scanArguments (position + 1) depth (!inQuotes) (c :: current) s
      else if inQuotes then
        scanArguments (position + 1) depth inQuotes (c :: current) s
      else if c = '(' then
        scanArguments (position + 1) (depth + 1) inQuotes (c :: current) s
      else if c = ')' then
        if depth = 0 then
          .error (.unexpectedClosing position)
        else
          scanArguments (position + 1) (depth - 1) inQuotes (c :: current) s
      else if c = ',' ∧ depth = 0 then
        match scanArguments (position + 1) depth inQuotes [] s with
        | .ok rest => .ok (Text.trim current.reverse :: rest)
        | .error fault => .error fault
      else
        scanArguments (position + 1) depth inQuotes (c :: current) s

/-- The arguments of a text, without the blanks around them; a blank text has
none. -/
def splitArguments (s : List Char) : Except SyntaxFault (List (List Char)) :=
  match scanArguments 0 0 false [] s with
  | .ok [[]] => .ok []
  | result => result

/-- The first comparison sign outside quotes and parentheses, with the texts
before and behind it; `before` (reversed) is already read. -/
def scanComparison (depth : Int) (inQuotes : Bool) (before : List Char) :
    List Char → Option (List Char × Comparison × List Char)
  | [] => none
  | c :: s =>
      if c = '"' then
        scanComparison depth (!inQuotes) (c :: before) s
      else if inQuotes then
        scanComparison depth inQuotes (c :: before) s
      else if c = '(' then
        scanComparison (depth + 1) inQuotes (c :: before) s
      else if c = ')' then
        scanComparison (depth - 1) inQuotes (c :: before) s
      else if depth = 0 then
        match Comparison.atFront? (c :: s) with
        | some (comparison, rest) => some (before.reverse, comparison, rest)
        | none => scanComparison depth inQuotes (c :: before) s
      else
        scanComparison depth inQuotes (c :: before) s

/-- The operands and the comparison of a condition, without the blanks around
them. -/
def splitComparison (s : List Char) : Except SyntaxFault (List Char × Comparison × List Char) :=
  match scanComparison 0 false [] s with
  | some (left, comparison, right) => .ok (Text.trim left, comparison, Text.trim right)
  | none => .error (.missingComparison (String.ofList s))

/-- The text starts and ends with a double quote of its own. -/
def isQuoted (s : List Char) : Bool :=
  2 ≤ s.length && s.head? == some '"' && s.getLast? == some '"'

/-- Every pair of double quotes made one. -/
def halveQuotes : List Char → List Char
  | '"' :: '"' :: s => '"' :: halveQuotes s
  | c :: s => c :: halveQuotes s
  | [] => []

/-- The text between the first and the last character, its doubled quotes made
single. -/
def unquote (s : List Char) : List Char :=
  halveQuotes (s.drop 1).dropLast

/-- Every double quote made two. -/
def doubleQuotes (s : List Char) : List Char :=
  s.flatMap fun c => if c = '"' then ['"', '"'] else [c]

/-- A text between double quotes. -/
def quote (s : List Char) : List Char :=
  '"' :: doubleQuotes s ++ ['"']

section Lemmas

theorem length_trim_le
    (s : List Char) :
    (Text.trim s).length ≤ s.length := by
  have drop_le : ∀ t : List Char, (t.dropWhile Text.isBlank).length ≤ t.length :=
    fun t => (List.dropWhile_suffix Text.isBlank).length_le
  have h₁ := drop_le s
  have h₂ := drop_le (s.dropWhile Text.isBlank).reverse
  simp only [Text.trim, Text.trimRight, Text.trimLeft, List.length_reverse] at *
  omega

theorem length_trim_reverse_le
    (s : List Char) :
    (Text.trim s.reverse).length ≤ s.length := by
  simpa using length_trim_le s.reverse

theorem length_le_of_mem_scanArguments
    {position depth : Nat} {inQuotes : Bool} {current s a : List Char}
    {args : List (List Char)}
    (h : scanArguments position depth inQuotes current s = .ok args)
    (ha : a ∈ args) :
    a.length ≤ current.length + s.length := by
  induction s generalizing position depth inQuotes current args with
  | nil =>
      simp only [scanArguments] at h
      split at h
      · simp at h
      · split at h
        · simp at h
        · simp only [Except.ok.injEq] at h
          subst h
          simp only [List.mem_singleton] at ha
          subst ha
          simpa using length_trim_reverse_le current
  | cons c s ih =>
      have step : ∀ {p d : Nat} {q : Bool},
          scanArguments p d q (c :: current) s = .ok args →
            a.length ≤ current.length + (c :: s).length := by
        intro p d q hp
        have := ih hp ha
        simp only [List.length_cons] at *
        omega
      simp only [scanArguments] at h
      split at h
      · exact step h
      split at h
      · exact step h
      split at h
      · exact step h
      split at h
      · split at h
        · simp at h
        · exact step h
      split at h
      · split at h
        · next rest hrest =>
            simp only [Except.ok.injEq] at h
            subst h
            rcases List.mem_cons.1 ha with rfl | ha
            · have := length_trim_reverse_le current
              omega
            · have := ih hrest ha
              simp only [List.length_cons, List.length_nil] at *
              omega
        · simp at h
      · exact step h

/-- No argument is longer than the text that it is cut from. -/
theorem length_le_of_mem_splitArguments
    {s a : List Char} {args : List (List Char)}
    (h : splitArguments s = .ok args)
    (ha : a ∈ args) :
    a.length ≤ s.length := by
  unfold splitArguments at h
  split at h
  · simp only [Except.ok.injEq] at h
    subst h
    simp at ha
  · simpa using length_le_of_mem_scanArguments h ha

theorem length_le_of_scanComparison
    {depth : Int} {inQuotes : Bool} {before s left right : List Char} {c : Comparison}
    (h : scanComparison depth inQuotes before s = some (left, c, right)) :
    left.length + right.length ≤ before.length + s.length := by
  induction s generalizing depth inQuotes before with
  | nil => simp [scanComparison] at h
  | cons d s ih =>
      have step : ∀ {e : Int} {q : Bool},
          scanComparison e q (d :: before) s = some (left, c, right) →
            left.length + right.length ≤ before.length + (d :: s).length := by
        intro e q hp
        have := ih hp
        simp only [List.length_cons] at *
        omega
      simp only [scanComparison] at h
      split at h
      · exact step h
      split at h
      · exact step h
      split at h
      · exact step h
      split at h
      · exact step h
      split at h
      · split at h
        · next hfront =>
            have hlt := Comparison.length_of_atFront? hfront
            simp only [Option.some.injEq, Prod.mk.injEq] at h
            obtain ⟨rfl, -, rfl⟩ := h
            simp only [List.length_reverse]
            omega
        · exact step h
      · exact step h

/-- Neither operand is longer than the condition. -/
theorem length_le_of_splitComparison
    {s left right : List Char} {c : Comparison}
    (h : splitComparison s = .ok (left, c, right)) :
    left.length ≤ s.length ∧ right.length ≤ s.length := by
  unfold splitComparison at h
  split at h
  · next l c' r hscan =>
      simp only [Except.ok.injEq, Prod.mk.injEq] at h
      obtain ⟨rfl, -, rfl⟩ := h
      have h₁ := length_le_of_scanComparison hscan
      have h₂ := length_trim_le l
      have h₃ := length_trim_le r
      simp only [List.length_nil, Nat.zero_add] at h₁
      omega
  · exact absurd h (by simp)

@[simp] theorem halveQuotes_doubleQuotes
    (s : List Char) :
    halveQuotes (doubleQuotes s) = s := by
  induction s with
  | nil => rfl
  | cons c s ih =>
      by_cases hc : c = '"'
      · subst hc
        simpa [doubleQuotes, halveQuotes] using ih
      · have : doubleQuotes (c :: s) = c :: doubleQuotes s := by
          simp [doubleQuotes, hc]
        rw [this, halveQuotes, ih]
        intro _ h
        exact fun _ => hc h

/-- A text between quotes reads back. -/
theorem unquote_quote
    (s : List Char) :
    unquote (quote s) = s := by
  simp [unquote, quote]

theorem isQuoted_quote
    (s : List Char) :
    isQuoted (quote s) = true := by
  have hlast : (quote s).getLast? = some '"' := by
    rw [quote, List.getLast?_append]
    rfl
  simp only [isQuoted, hlast]
  simp [quote]

end Lemmas

end Formula
end Spreadsheet
