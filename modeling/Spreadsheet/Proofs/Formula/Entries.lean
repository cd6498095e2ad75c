import Spreadsheet.Formula.Shape
import Spreadsheet.Proofs.Reference.Label
import Spreadsheet.Proofs.Text.Pattern

/-!
# The entries of the dispatch table

Each kind of formula other than arithmetic has an entry: a pattern, and the shape that is
made of what the pattern keeps.  A call has the name of its function in letters of either
case, with any blanks around it, and then its arguments between parentheses.  A reference is
a single label.

Results: what the entry of a call takes (`takes_call_iff`), and that of a reference
(`takes_reference_iff`).
-/

namespace Spreadsheet
namespace Formula

open Text (Pattern)

/-- The functions that a formula can call. -/
inductive Callee where
  | today
  | aggregate (f : Aggregate)
  | condition
  | join
deriving DecidableEq, Repr

/-- The entries of the dispatch table. -/
inductive Entry where
  | call (f : Callee)
  | reference
deriving DecidableEq, Repr

section Patterns

/-- The letters of a word, in either case. -/
def spelled : List Char → Pattern
  | [] => .nothing
  | c :: rest => (Pattern.one (nameLetter · == c)).andThen (spelled rest)

/-- A word, in letters of either case. -/
def word (name : String) : Pattern := spelled name.toList

/-- Any blanks. -/
def blanks : Pattern := .many Text.isBlank

/-- A call: a name behind the equals sign, and arguments between parentheses. -/
def call (name arguments : Pattern) : Pattern :=
  (Pattern.exactly '=').andThen <| blanks.andThen <| name.andThen <| blanks.andThen <|
    (Pattern.exactly '(').andThen <| arguments.andThen (Pattern.exactly ')')

/-- The name of a function. -/
def Callee.name : Callee → Pattern
  | .today => word "TODAY"
  | .aggregate .sum => word "SUM"
  | .aggregate .average => (word "AVERAGE").orElse (word "AVG")
  | .aggregate .count => word "COUNT"
  | .aggregate .least => word "MIN"
  | .aggregate .greatest => word "MAX"
  | .condition => word "IF"
  | .join => (word "CONCAT").andThen ((word "ENATE").orElse .nothing)

/-- The arguments of a function: blanks, one range, or any text. -/
def Callee.arguments : Callee → Pattern
  | .today => blanks
  | .aggregate _ => .group (.many1 (· != ')'))
  | .condition | .join => .group (.many fun _ => true)

/-- The pattern of an entry. -/
def Entry.pattern : Entry → Pattern
  | .call f => Formula.call f.name f.arguments
  | .reference =>
      (Pattern.exactly '=').andThen <| blanks.andThen <|
        (Pattern.group ((Pattern.many1 Reference.isLabelLetter).andThen
          (.many1 Char.isDigit))).andThen blanks

/-- The shape of a call of a function with these arguments. -/
def Callee.shape (arguments : List Char) : Callee → Shape
  | .today => .today
  | .aggregate f => .aggregate f arguments
  | .condition => .condition arguments
  | .join => .join arguments

/-- The shape that an entry makes of what its pattern keeps. -/
def Entry.shape (kept : List Char) : Entry → Shape
  | .call f => f.shape kept
  | .reference =>
      .reference (kept.takeWhile Reference.isLabelLetter) (kept.dropWhile Reference.isLabelLetter)

/-- The entry finds a shape of a text. -/
def Entry.shape? (e : Entry) (s : List Char) : Option Shape :=
  (e.pattern.match? s).map (e.shape ·)

/-- The pattern of the entry matches a formula without the blanks around it. -/
def Entry.Matches (e : Entry) (formula : String) : Prop :=
  (e.pattern.match? (Text.trim formula.toList)).isSome = true

instance (e : Entry) (formula : String) : Decidable (e.Matches formula) :=
  inferInstanceAs (Decidable (_ = true))

/-- The entries in the order in which they are tried. -/
def Entry.table : List Entry :=
  [.call .today, .call (.aggregate .sum), .call (.aggregate .average), .call (.aggregate .count),
    .call (.aggregate .least), .call (.aggregate .greatest), .call .condition, .call .join,
    .reference]

/-- The shape of a formula by the first entry of an order that takes it; arithmetic if none
does. -/
def Shape.ofTextBy? (order : List Entry) : List Char → Option Shape
  | '=' :: s => some ((order.findSome? (·.shape? ('=' :: s))).getD (.arithmetic s))
  | _ => none

/-- The entry that a shape belongs to; arithmetic belongs to none. -/
def Shape.owner? : Shape → Option Entry
  | .today => some (.call .today)
  | .aggregate f _ => some (.call (.aggregate f))
  | .condition _ => some (.call .condition)
  | .join _ => some (.call .join)
  | .reference _ _ => some .reference
  | .arithmetic _ => none

/-- The table holds every entry. -/
theorem Entry.mem_table
    (e : Entry) :
    e ∈ table := by
  cases e with
  | reference => decide
  | call f =>
      cases f with
      | aggregate f => cases f <;> decide
      | _ => decide

example : Entry.table.Nodup ∧ Entry.table.length = 9 := by decide

@[simp] theorem owner?_shape
    (e : Entry) (kept : List Char) :
    (e.shape kept).owner? = some e := by
  cases e with
  | reference => rfl
  | call f => cases f <;> rfl

end Patterns

section Meaning

variable {s k : List Char}

/-- The names of a function. -/
def Callee.names : Callee → List String
  | .today => ["TODAY"]
  | .aggregate .sum => ["SUM"]
  | .aggregate .average => ["AVERAGE", "AVG"]
  | .aggregate .count => ["COUNT"]
  | .aggregate .least => ["MIN"]
  | .aggregate .greatest => ["MAX"]
  | .condition => ["IF"]
  | .join => ["CONCAT", "CONCATENATE"]

theorem takes_spelled_iff
    {name : List Char} :
    (spelled name).Takes s k ↔ s.map nameLetter = name ∧ k = [] := by
  induction name generalizing s k with
  | nil => simp [spelled, Pattern.Takes]
  | cons c name ih =>
      simp only [spelled, Pattern.Takes, ih]
      constructor
      · rintro ⟨_, _, rest, _, ⟨⟨d, hd, rfl⟩, rfl⟩, ⟨hrest, rfl⟩, rfl, rfl⟩
        simpa [hrest] using hd
      · rintro ⟨hs, rfl⟩
        obtain ⟨d, rest, rfl, hd, hrest⟩ := List.map_eq_cons_iff.1 hs
        exact ⟨[d], [], rest, [], ⟨⟨d, by simp [hd], rfl⟩, rfl⟩, ⟨hrest, rfl⟩, rfl, rfl⟩

theorem takes_word_iff
    {name : String} :
    (word name).Takes s k ↔ String.ofList (s.map nameLetter) = name ∧ k = [] := by
  rw [word, takes_spelled_iff, ← String.toList_inj, String.toList_ofList]

/-- A function is called by its names. -/
theorem takes_name_iff
    {f : Callee} :
    f.name.Takes s k ↔ String.ofList (s.map nameLetter) ∈ f.names ∧ k = [] := by
  cases f with
  | today => simp [Callee.name, Callee.names, takes_word_iff]
  | aggregate f =>
      cases f <;> simp [Callee.name, Callee.names, takes_word_iff, Pattern.Takes, or_and_right]
  | condition => simp [Callee.name, Callee.names, takes_word_iff]
  | join =>
      -- The longer name is the shorter one with a second word behind it.
      have hlong : "CONCATENATE".toList = "CONCAT".toList ++ "ENATE".toList := by decide
      simp only [Callee.name, Callee.names, Pattern.Takes, takes_word_iff, List.mem_cons,
        List.not_mem_nil, or_false, ← String.toList_inj, String.toList_ofList]
      constructor
      · rintro ⟨first, _, second, _, ⟨hfirst, rfl⟩, ⟨hsecond, rfl⟩ | ⟨rfl, rfl⟩, rfl, rfl⟩
        · rw [hlong, List.map_append, hfirst, hsecond]
          exact ⟨.inr rfl, rfl⟩
        · rw [List.append_nil]
          exact ⟨.inl hfirst, rfl⟩
      · rintro ⟨hshort | hboth, rfl⟩
        · exact ⟨s, [], [], [], ⟨hshort, rfl⟩, .inr ⟨rfl, rfl⟩, by simp, rfl⟩
        · rw [hlong] at hboth
          obtain ⟨first, second, rfl, hfirst, hsecond⟩ := List.map_eq_append_iff.1 hboth
          exact ⟨first, [], second, [], ⟨hfirst, rfl⟩, .inl ⟨hsecond, rfl⟩, rfl, rfl⟩

theorem takes_blanks
    (h : ∀ c ∈ s, Text.isBlank c = true) :
    blanks.Takes s [] :=
  ⟨h, rfl⟩

/-- A function of a range takes any text without a closing parenthesis. -/
theorem takes_range_iff
    {f : Aggregate} :
    (Callee.aggregate f).arguments.Takes s k ↔ s ≠ [] ∧ ')' ∉ s ∧ k = s := by
  have hopen : (∀ c ∈ s, (c != ')') = true) ↔ ')' ∉ s := by
    simp only [bne_iff_ne, ne_eq]
    exact ⟨fun h hc => h _ hc rfl, fun h c hc heq => h (heq ▸ hc)⟩
  simp only [Callee.arguments, Pattern.Takes, Pattern.takes_many1_iff, hopen]
  constructor
  · rintro ⟨⟨_, hne, hclose, -⟩, rfl⟩
    exact ⟨hne, hclose, rfl⟩
  · rintro ⟨hne, hclose, rfl⟩
    exact ⟨⟨[], hne, hclose, rfl⟩, rfl⟩

/-- A condition and a join take any text. -/
theorem takes_any_iff :
    (Pattern.group (.many fun _ => true)).Takes s k ↔ k = s := by
  simp [Pattern.Takes]

/-- A call of a function, with blanks around its name, and what is kept of it. -/
inductive IsCall (f : Callee) : List Char → List Char → Prop
  | intro
      {before written after arguments kept : List Char}
      (hbefore : ∀ c ∈ before, Text.isBlank c = true)
      (hname : String.ofList (written.map nameLetter) ∈ f.names)
      (hafter : ∀ c ∈ after, Text.isBlank c = true)
      (harguments : f.arguments.Takes arguments kept) :
      IsCall f ('=' :: (before ++ written ++ after ++ '(' :: (arguments ++ [')']))) kept

theorem takes_call_iff
    {f : Callee} :
    (Entry.call f).pattern.Takes s k ↔ IsCall f s k := by
  constructor
  · intro h
    simp only [Entry.pattern, call, blanks, Pattern.Takes, Pattern.takes_exactly_iff,
      takes_name_iff] at h
    obtain ⟨_, _, _, _, ⟨rfl, rfl⟩, ⟨before, _, _, _, ⟨hbefore, rfl⟩, ⟨written, _, _, _,
      ⟨hname, rfl⟩, ⟨after, _, _, _, ⟨hafter, rfl⟩, ⟨_, _, _, _, ⟨rfl, rfl⟩, ⟨arguments, kept, _, _,
      harguments, ⟨rfl, rfl⟩, rfl, rfl⟩, rfl, rfl⟩, rfl, rfl⟩, rfl, rfl⟩, rfl, rfl⟩, rfl, rfl⟩ := h
    simpa using IsCall.intro hbefore hname hafter harguments
  · rintro ⟨hbefore, hname, hafter, harguments⟩
    have hparts := (Pattern.takes_exactly '=').andThen <| (takes_blanks hbefore).andThen <|
      (takes_name_iff.2 ⟨hname, rfl⟩).andThen <| (takes_blanks hafter).andThen <|
        (Pattern.takes_exactly '(').andThen <| harguments.andThen (Pattern.takes_exactly ')')
    simpa [Entry.pattern, call] using hparts

/-- A label behind the equals sign, with blanks around it. -/
inductive IsSingle : List Char → List Char → Prop
  | intro
      {before letters digits after : List Char}
      (hbefore : ∀ c ∈ before, Text.isBlank c = true)
      (hlabel : Reference.IsSplit letters digits)
      (hafter : ∀ c ∈ after, Text.isBlank c = true) :
      IsSingle ('=' :: (before ++ (letters ++ digits) ++ after)) (letters ++ digits)

theorem takes_reference_iff :
    Entry.reference.pattern.Takes s k ↔ IsSingle s k := by
  constructor
  · intro h
    simp only [Entry.pattern, blanks, Pattern.Takes, Pattern.takes_exactly_iff,
      Pattern.takes_many1_iff] at h
    obtain ⟨_, _, _, _, ⟨rfl, rfl⟩, ⟨before, _, _, _, ⟨hbefore, rfl⟩, ⟨_, _, after, _,
      ⟨⟨_, letters, _, digits, _, ⟨hletters, hletter, -⟩, ⟨hdigits, hdigit, -⟩, rfl, -⟩, rfl⟩,
      ⟨hafter, rfl⟩, rfl, rfl⟩, rfl, rfl⟩, rfl, rfl⟩ := h
    simpa using IsSingle.intro hbefore ⟨hletters, hdigits, hletter, hdigit⟩ hafter
  · rintro ⟨hbefore, hlabel, hafter⟩
    have hletters := Pattern.takes_many1_iff.2 ⟨hlabel.letters_ne_nil, hlabel.isLabelLetter, rfl⟩
    have hdigits := Pattern.takes_many1_iff.2 ⟨hlabel.digits_ne_nil, hlabel.isDigit, rfl⟩
    have hparts := (Pattern.takes_exactly '=').andThen <| (takes_blanks hbefore).andThen <|
      (hletters.andThen hdigits).group.andThen (takes_blanks hafter)
    simpa [Entry.pattern] using hparts

end Meaning

end Formula
end Spreadsheet
