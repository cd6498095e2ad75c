import Mathlib.Data.List.Basic
import Spreadsheet.Delimited

/-!
# Reading delimited text

The reader goes through a text character by character.  Line feeds part the
records and delimiters their fields.  A field that begins with a double quote
goes on to the quote that closes it, and two quotes inside it stand for one.  A
double quote or a carriage return anywhere else is malformed, and so is anything
between a closing quote and the end of its field.

Results: a field is read back whatever it holds (`readFrom_field`), and so are
records of at least one field (`read_write`).
-/

namespace Spreadsheet
namespace Delimited

/-- Where a reading stands in a field. -/
inductive Place where
  | start
  /-- In a field without quotes around it. -/
  | bare
  /-- Between the quotes around a field. -/
  | quoted
  /-- Behind a quote that closes the field unless another one follows. -/
  | closing
deriving DecidableEq, Repr

/-- The records of a text, read on with the characters of the current field and
the fields of the current record so far. -/
def readFrom (delimiter : Char) :
    Place → List Char → List (List Char) → List Char → Option (List (List (List Char)))
  | .quoted, _, _, [] => none
  | _, field, fields, [] => some [fields ++ [field]]
  | .quoted, field, fields, c :: s =>
      if c = '"' then readFrom delimiter .closing field fields s
      else readFrom delimiter .quoted (field ++ [c]) fields s
  | place, field, fields, c :: s =>
      if c = delimiter then
        readFrom delimiter .start [] (fields ++ [field]) s
      else if c = '\n' then
        (readFrom delimiter .start [] [] s).map ((fields ++ [field]) :: ·)
      else if c = '"' then
        match place with
        | .start => readFrom delimiter .quoted [] fields s
        | .closing => readFrom delimiter .quoted (field ++ [c]) fields s
        | _ => none
      else if c = '\r' ∨ place = .closing then
        none
      else
        readFrom delimiter .bare (field ++ [c]) fields s

/-- The records of a text; none if it is malformed. -/
def read (delimiter : Char) (s : List Char) : Option (List (List (List Char))) :=
  readFrom delimiter .start [] [] s

/-- A character that can part fields. -/
def IsDelimiter (c : Char) : Prop := c ≠ '"' ∧ c ≠ '\r' ∧ c ≠ '\n'

instance (c : Char) : Decidable (IsDelimiter c) :=
  inferInstanceAs (Decidable (_ ∧ _))

/-- A field ends in front of the text. -/
def EndsField (delimiter : Char) (s : List Char) : Prop :=
  ∀ c ∈ s.head?, c = delimiter ∨ c = '\n'

section Lemmas

variable {delimiter : Char} {s rest : List Char} {fields : List (List Char)}

theorem endsField_nil :
    EndsField delimiter [] := by
  simp [EndsField]

theorem endsField_delimiter :
    EndsField delimiter (delimiter :: s) := by
  simp [EndsField]

theorem endsField_lineFeed :
    EndsField delimiter ('\n' :: s) := by
  simp [EndsField]

/-- Where a field ends, it does not matter how it was written. -/
theorem readFrom_of_endsField
    {place : Place}
    (hplace : place ≠ .quoted)
    (hrest : EndsField delimiter rest)
    (field : List Char) :
    readFrom delimiter place field fields rest = readFrom delimiter .bare field fields rest := by
  cases rest with
  | nil => cases place <;> simp_all [readFrom]
  | cons c rest =>
      have hc : c = delimiter ∨ c = '\n' := hrest c (by simp)
      by_cases hdelimiter : c = delimiter
      · cases place <;> simp_all [readFrom]
      · cases place <;> simp_all [readFrom]

theorem readFrom_plain
    {c : Char} {place : Place} {field : List Char}
    (hplace : place = .start ∨ place = .bare)
    (hc : isSpecial delimiter c = false) :
    readFrom delimiter place field fields (c :: s)
      = readFrom delimiter .bare (field ++ [c]) fields s := by
  simp only [isSpecial, Bool.or_eq_false_iff, beq_eq_false_iff_ne] at hc
  obtain ⟨⟨⟨hdelimiter, hquote⟩, hreturn⟩, hfeed⟩ := hc
  rcases hplace with rfl | rfl <;> simp [readFrom, hdelimiter, hquote, hreturn, hfeed]

/-- Characters without a meaning of their own are read as they are. -/
theorem readFrom_bare_append
    {field : List Char}
    (hs : ∀ c ∈ s, isSpecial delimiter c = false) :
    readFrom delimiter .bare field fields (s ++ rest)
      = readFrom delimiter .bare (field ++ s) fields rest := by
  induction s generalizing field with
  | nil => simp
  | cons c s ih =>
      rw [List.cons_append, readFrom_plain (.inr rfl) (hs c (by simp)),
        ih fun d hd => hs d (List.mem_cons_of_mem _ hd), List.append_assoc]
      rfl

/-- The text between quotes is read with its doubled quotes made single. -/
theorem readFrom_quoted_append
    {field : List Char}
    (hdelimiter : IsDelimiter delimiter) :
    readFrom delimiter .quoted field fields
        (s.flatMap (fun c => if c = '"' then ['"', '"'] else [c]) ++ rest)
      = readFrom delimiter .quoted (field ++ s) fields rest := by
  induction s generalizing field with
  | nil => simp
  | cons c s ih =>
      rw [List.flatMap_cons, List.append_assoc]
      by_cases hc : c = '"'
      · subst hc
        have hquote : ¬ '"' = delimiter := fun h => hdelimiter.1 h.symm
        simp [readFrom, hquote, ih]
      · simp [readFrom, hc, ih]

/-- A field is read back, whatever it holds. -/
theorem readFrom_field
    (hdelimiter : IsDelimiter delimiter)
    (hrest : EndsField delimiter rest) :
    readFrom delimiter .start [] fields (field delimiter s ++ rest)
      = readFrom delimiter .bare s fields rest := by
  unfold field
  split
  · have hquote : ¬ '"' = delimiter := fun h => hdelimiter.1 h.symm
    have hopen : ∀ t, readFrom delimiter .start [] fields ('"' :: t)
        = readFrom delimiter .quoted [] fields t := by
      intro t
      simp [readFrom, hquote]
    have hclose : readFrom delimiter .quoted s fields ('"' :: rest)
        = readFrom delimiter .closing s fields rest := by
      simp [readFrom]
    rw [List.append_assoc, List.cons_append, hopen, readFrom_quoted_append hdelimiter,
      List.nil_append, List.singleton_append, hclose]
    exact readFrom_of_endsField (by simp) hrest s
  · next hspecial =>
      have hplain : ∀ c ∈ s, isSpecial delimiter c = false := by simpa using hspecial
      cases s with
      | nil => exact readFrom_of_endsField (by simp) hrest []
      | cons c s =>
          rw [List.cons_append, readFrom_plain (.inl rfl) (hplain c (by simp))]
          exact readFrom_bare_append fun d hd => hplain d (List.mem_cons_of_mem _ hd)

/-- A record is read back field by field, with what comes of the text behind
it. -/
theorem readFrom_record
    {first : List Char} {others : List (List Char)}
    (result : List (List Char) → Option (List (List (List Char))))
    (hdelimiter : IsDelimiter delimiter)
    (hrest : EndsField delimiter rest)
    (hresult : ∀ field fields,
      readFrom delimiter .bare field fields rest = result (fields ++ [field])) :
    readFrom delimiter .start [] fields (record delimiter (first :: others) ++ rest)
      = result (fields ++ first :: others) := by
  induction others generalizing first fields with
  | nil =>
      simp only [record, List.map_cons, List.map_nil, List.intercalate_singleton]
      rw [readFrom_field hdelimiter hrest, hresult]
  | cons second others ih =>
      have hwritten : record delimiter (first :: second :: others)
          = field delimiter first ++ delimiter :: record delimiter (second :: others) := by
        simp [record, List.intercalate_cons_cons]
      have hnext : ∀ t, readFrom delimiter .bare first fields (delimiter :: t)
          = readFrom delimiter .start [] (fields ++ [first]) t := by
        intro t
        simp [readFrom]
      rw [hwritten, List.append_assoc, List.cons_append,
        readFrom_field hdelimiter endsField_delimiter, hnext, ih, List.append_assoc]
      rfl

/-- Records are read back, each of at least one field. -/
theorem read_write
    {records : List (List (List Char))}
    (hdelimiter : IsDelimiter delimiter)
    (hne : records ≠ [])
    (hfields : ∀ record ∈ records, record ≠ []) :
    read delimiter (write delimiter records) = some records := by
  induction records with
  | nil => exact absurd rfl hne
  | cons current records ih =>
      obtain ⟨first, others, rfl⟩ := List.exists_cons_of_ne_nil (hfields current (by simp))
      cases records with
      | nil =>
          have hlast : ∀ field fields, readFrom delimiter .bare field fields []
              = some [fields ++ [field]] := fun _ _ => rfl
          have hread : readFrom delimiter .start [] [] (record delimiter (first :: others) ++ [])
              = some [[] ++ first :: others] :=
            readFrom_record (fun record => some [record]) hdelimiter endsField_nil hlast
          rw [List.append_nil] at hread
          simpa [read, write] using hread
      | cons next records =>
          have hrecords : read delimiter (write delimiter (next :: records))
              = some (next :: records) :=
            ih (by simp) fun record hrecord => hfields record (List.mem_cons_of_mem _ hrecord)
          have hwritten : write delimiter ((first :: others) :: next :: records)
              = record delimiter (first :: others)
                ++ '\n' :: write delimiter (next :: records) := by
            simp [write, List.intercalate_cons_cons]
          have hfeed : ¬ '\n' = delimiter := fun h => hdelimiter.2.2 h.symm
          have hnext : ∀ field fields,
              readFrom delimiter .bare field fields ('\n' :: write delimiter (next :: records))
                = some ((fields ++ [field]) :: next :: records) := by
            intro field fields
            rw [read] at hrecords
            simp [readFrom, hfeed, hrecords]
          rw [read, hwritten]
          exact readFrom_record (fun record => some (record :: next :: records)) hdelimiter
            endsField_lineFeed hnext

example :
    read ';' "a;\"b\"\"c\"\n;".toList = some [[['a'], ['b', '"', 'c']], [[], []]] := by
  decide

end Lemmas

end Delimited
end Spreadsheet
