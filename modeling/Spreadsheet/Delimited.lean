/-!
# Delimited text

Records of fields on lines of their own.  A field that holds the delimiter, a
double quote or a line end is put between double quotes, and its own double
quotes are written twice.

Results: a field without special characters is written as it is
(`field_of_plain`), the empty one among them (`field_nil`).
-/

namespace Spreadsheet
namespace Delimited

/-- A character for which a field is quoted. -/
def isSpecial (delimiter c : Char) : Bool :=
  c == delimiter || c == '"' || c == '\r' || c == '\n'

/-- A field as it is written. -/
def field (delimiter : Char) (s : List Char) : List Char :=
  if s.any (isSpecial delimiter) then
    '"' :: s.flatMap (fun c => if c = '"' then ['"', '"'] else [c]) ++ ['"']
  else
    s

/-- A record as it is written; one of empty fields is its delimiters alone. -/
def record (delimiter : Char) (fields : List (List Char)) : List Char :=
  [delimiter].intercalate (fields.map (field delimiter))

/-- Records as they are written, without a line end after the last. -/
def write (delimiter : Char) (records : List (List (List Char))) : List Char :=
  ['\n'].intercalate (records.map (record delimiter))

section Lemmas

theorem field_of_plain
    {delimiter : Char} {s : List Char}
    (h : ∀ c ∈ s, isSpecial delimiter c = false) :
    field delimiter s = s := by
  have : s.any (isSpecial delimiter) = false := by simpa using h
  simp [field, this]

@[simp] theorem field_nil
    (delimiter : Char) :
    field delimiter [] = [] := rfl

end Lemmas

end Delimited
end Spreadsheet
