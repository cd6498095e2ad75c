import Spreadsheet.Number.Reader

/-!
# Arguments

What a command was given on its line: values by their places, and options by
their spellings.  An option starts with a hyphen; one that takes a value takes
the rest of its own argument or the next one, whatever that is.  After two
hyphens alone there are no more options.

Results: arguments without a hyphen in front stay in their places
(`read?_of_plain`), and so does all that follows two hyphens
(`read?_separator`).
-/

namespace Spreadsheet

/-- An option that a command knows. -/
structure OptionForm where
  name : String
  /-- The spelling after two hyphens. -/
  long : String
  /-- The letter after a single hyphen, if there is one. -/
  short : Option Char
  takesValue : Bool
deriving DecidableEq, Repr

/-- What a command was given. -/
structure Arguments where
  values : List String
  /-- The options by their names, the later ones first. -/
  options : List (String × String)
deriving DecidableEq, Repr

namespace Arguments

/-- An option with its value, or one whose value is still to come. -/
inductive Given where
  | whole (name value : String)
  | awaiting (name : String)
deriving DecidableEq, Repr

/-- The option of an argument after its two hyphens. -/
def longOption? (forms : List OptionForm) (s : List Char) : Option Given := do
  let name := String.ofList (s.takeWhile (· != '='))
  let form ← forms.find? (·.long = name)
  match form.takesValue, s.dropWhile (· != '=') with
  | true, [] => return .awaiting form.name
  | true, _ :: value => return .whole form.name (String.ofList value)
  | false, [] => return .whole form.name ""
  | false, _ => none

/-- The options of the letters after a single hyphen; the first that takes a
value takes the rest. -/
def shortOptions? (forms : List OptionForm) : List Char → Option (List Given)
  | [] => some []
  | c :: s => do
      let form ← forms.find? (·.short = some c)
      if form.takesValue then
        if s.isEmpty then
          return [.awaiting form.name]
        else
          return [.whole form.name (String.ofList s)]
      else
        return .whole form.name "" :: (← shortOptions? forms s)

/-- The options of an argument that starts with a hyphen. -/
def options? (forms : List OptionForm) : List Char → Option (List Given)
  | '-' :: '-' :: s => (longOption? forms s).map ([·])
  | '-' :: s => shortOptions? forms s
  | _ => none

/-- An argument that is an option. -/
def isOption (arg : String) : Bool :=
  arg.startsWith "-" && 1 < arg.length

/-- The arguments with more options given. -/
def withOptions (a : Arguments) (given : List Given) : Arguments :=
  { a with options := given.foldl (fun options g =>
      match g with
      | .whole name value => (name, value) :: options
      | .awaiting _ => options) a.options }

/-- Reads a line of arguments after those that were read already. -/
def readFrom? (forms : List OptionForm) : Arguments → List String → Option Arguments
  | a, [] => some a
  | a, arg :: rest =>
      if arg = "--" then
        some { a with values := a.values ++ rest }
      else if isOption arg then
        match options? forms arg.toList with
        | none => none
        | some given =>
            match given.getLast?, rest with
            | some (.awaiting _), [] => none
            | some (.awaiting name), value :: rest =>
                readFrom? forms (a.withOptions (given ++ [.whole name value])) rest
            | _, rest => readFrom? forms (a.withOptions given) rest
      else
        readFrom? forms { a with values := a.values ++ [arg] } rest

/-- Reads a line of arguments; none if an option is unknown or lacks its value. -/
def read? (forms : List OptionForm) (line : List String) : Option Arguments :=
  readFrom? forms ⟨[], []⟩ line

/-- An option was given. -/
def has (a : Arguments) (name : String) : Bool :=
  (a.options.lookup name).isSome

/-- The latest value of an option. -/
def option? (a : Arguments) (name : String) : Option String :=
  a.options.lookup name

/-- The text of a number without the blanks around it.  The separators are blanks
only in a text that is not all ASCII. -/
def trimNumber (s : List Char) : List Char :=
  if s.all fun c => c.toNat < 0x80 then Text.trimSpace s else Text.trim s

/-- The whole number that an argument writes, in digits of any script. -/
def number? (arg : String) : Option Int :=
  let (negative, s) := Numeral.scanSign (trimNumber arg.toList)
  (Text.partedDigits? Text.isDecimal s).bind fun digits =>
    (Numeral.integer negative digits).toOption

/-- The whole number of an option, if it was given. -/
def optionNumber? (a : Arguments) (name : String) : Option (Option Int) :=
  match a.option? name with
  | none => some none
  | some arg => (number? arg).map some

section Lemmas

theorem readFrom?_of_plain
    {forms : List OptionForm} {a : Arguments} {line : List String}
    (h : ∀ arg ∈ line, arg ≠ "--" ∧ isOption arg = false) :
    readFrom? forms a line = some { a with values := a.values ++ line } := by
  induction line generalizing a with
  | nil => simp [readFrom?]
  | cons arg rest ih =>
      obtain ⟨hsep, hopt⟩ := h arg List.mem_cons_self
      simp [readFrom?, hsep, hopt, ih fun b hb => h b (List.mem_cons_of_mem _ hb)]

/-- Arguments without a hyphen in front stay in their places. -/
theorem read?_of_plain
    {forms : List OptionForm} {line : List String}
    (h : ∀ arg ∈ line, arg ≠ "--" ∧ isOption arg = false) :
    read? forms line = some ⟨line, []⟩ := by
  simp [read?, readFrom?_of_plain h]

/-- What follows two hyphens stays in its place. -/
theorem read?_separator
    (forms : List OptionForm) (line : List String) :
    read? forms ("--" :: line) = some ⟨line, []⟩ := by
  simp [read?, readFrom?]

end Lemmas

end Arguments
end Spreadsheet
