import Spreadsheet.Proofs.Cell.Rendering
import Spreadsheet.Proofs.Json.Scanning
import Spreadsheet.Proofs.Json.Step

/-!
# The numbers of a structured value

A structured value that is read holds the numbers that its text writes, and no others: what
is open or finished during the reading holds numbers of the tokens before it.  An integer
of too many digits is no number, so every number that is read can be written again.

Results: a number that a value holds is one of the tokens of its text (`mem_tokens_of_holds`)
and can be written out (`hasText_of_holds`).
-/

namespace Spreadsheet
namespace Json

/-- The number is the value, or stands somewhere in it. -/
inductive Holds (x : Number) : Json → Prop
  | number :
      Holds x (.number x)
  | item
      {items : List Json} {item : Json}
      (hitem : item ∈ items)
      (h : Holds x item) :
      Holds x (.array items)
  | field
      {fields : Fields} {field : String × Json}
      (hfield : field ∈ fields)
      (h : Holds x field.2) :
      Holds x (.object fields)

/-- The number stands in the fields read so far. -/
def FieldsHold (x : Number) (fields : Fields) : Prop := ∃ field ∈ fields, Holds x field.2

/-- The number stands in an array or object that is still open. -/
def Opened.Holds (x : Number) : Opened → Prop
  | .array items => ∃ item ∈ items, Json.Holds x item
  | .object fields _ => FieldsHold x fields

/-- The number stands in what was finished last. -/
def Expected.Holds (x : Number) : Expected → Prop
  | .value | .firstItem => False
  | .firstKey fields | .key fields | .colon fields _ => FieldsHold x fields
  | .separator done => Json.Holds x done

/-- The number stands in what was read so far. -/
def Held (x : Number) (stack : List Opened) (expected : Expected) : Prop :=
  (∃ opened ∈ stack, opened.Holds x) ∨ expected.Holds x

section Lemmas

variable {x : Number}

theorem holds_number_iff
    {y : Number} :
    Holds x (.number y) ↔ x = y := by
  constructor
  · rintro ⟨⟩
    rfl
  · rintro rfl
    exact .number

theorem holds_array_iff
    {items : List Json} :
    Holds x (.array items) ↔ ∃ item ∈ items, Holds x item := by
  constructor
  · rintro ⟨⟩
    exact ⟨_, ‹_›, ‹_›⟩
  · rintro ⟨item, hitem, h⟩
    exact .item hitem h

theorem holds_object_iff
    {fields : Fields} :
    Holds x (.object fields) ↔ FieldsHold x fields := by
  constructor
  · rintro ⟨⟩
    exact ⟨_, ‹_›, ‹_›⟩
  · rintro ⟨field, hfield, h⟩
    exact .field hfield h

theorem fieldsHold_setField
    {fields : Fields} {key : String} {value : Json}
    (h : FieldsHold x (setField fields key value)) :
    FieldsHold x fields ∨ Holds x value := by
  obtain ⟨field, hfield, h⟩ := h
  induction fields with
  | nil =>
      obtain rfl := List.mem_singleton.1 hfield
      exact .inr h
  | cons first rest ih =>
      rw [setField] at hfield
      split at hfield
      · rcases List.mem_cons.1 hfield with rfl | hfield
        · exact .inr h
        · exact .inl ⟨field, List.mem_cons_of_mem _ hfield, h⟩
      · rcases List.mem_cons.1 hfield with rfl | hfield
        · exact .inl ⟨_, List.mem_cons_self, h⟩
        · refine (ih hfield).imp_left ?_
          rintro ⟨other, hother, hx⟩
          exact ⟨other, List.mem_cons_of_mem _ hother, hx⟩

/-- Of several fields with one key one is kept. -/
theorem fieldsHold_of_ofFields
    {fields : Fields}
    (h : Holds x (ofFields fields)) :
    FieldsHold x fields := by
  have hstep : ∀ (fields base : Fields),
      FieldsHold x (fields.foldl (fun fs field => setField fs field.1 field.2) base) →
        FieldsHold x base ∨ FieldsHold x fields := by
    intro fields
    induction fields with
    | nil => exact fun base h => .inl h
    | cons first rest ih =>
        intro base h
        rcases ih _ h with h | ⟨field, hfield, hx⟩
        · exact (fieldsHold_setField h).imp_right fun hx => ⟨first, List.mem_cons_self, hx⟩
        · exact .inr ⟨field, List.mem_cons_of_mem _ hfield, hx⟩
  rcases hstep fields [] (holds_object_iff.1 h) with ⟨field, hfield, -⟩ | h
  · cases hfield
  · exact h

theorem fieldsHold_reverse
    {fields : Fields} :
    FieldsHold x fields.reverse ↔ FieldsHold x fields := by
  simp only [FieldsHold, List.mem_reverse]

theorem fieldsHold_cons
    {key : String} {value : Json} {fields : Fields} :
    FieldsHold x ((key, value) :: fields) ↔ Holds x value ∨ FieldsHold x fields := by
  simp only [FieldsHold, List.mem_cons, exists_eq_or_imp]

theorem eq_number_of_value?
    {token : Token} {done : Json}
    (h : token.value? = some done)
    (hx : Holds x done) :
    token = .number x := by
  cases token with
  | number y =>
      obtain rfl := Option.some.inj h
      rw [holds_number_iff.1 hx]
  | null | bool b | text s =>
      obtain rfl := Option.some.inj h
      cases hx
  | _ => cases h

/-- A step adds to what was read the number that its token may be, and nothing else. -/
theorem Step.held
    {stack stack' : List Opened} {expected expected' : Expected} {token : Token}
    (h : Step stack expected token stack' expected')
    (hx : Held x stack' expected') :
    token = .number x ∨ Held x stack expected := by
  cases h with
  | openArray =>
      refine .inr (.inl ?_)
      simpa [Held, Opened.Holds, Expected.Holds] using hx
  | openObject =>
      refine .inr (.inl ?_)
      simpa [Held, Expected.Holds, FieldsHold] using hx
  | single _ hdone =>
      rcases hx with hx | hx
      · exact .inr (.inl hx)
      · exact .inl (eq_number_of_value? hdone hx)
  | key hkey =>
      right
      rcases Expected.takesKey_iff.1 hkey with rfl | rfl <;> exact hx
  | emptyObject =>
      exact .inr (hx.imp_right fun hx => fieldsHold_reverse.1 (fieldsHold_of_ofFields hx))
  | closeObject =>
      right
      have hfields : Held x _ (.key _) :=
        hx.imp_right fun hx => fieldsHold_reverse.1 (fieldsHold_of_ofFields hx)
      simpa [Held, Opened.Holds, Expected.Holds, fieldsHold_cons, or_comm, or_assoc,
        or_left_comm] using hfields
  | nextField =>
      right
      simpa [Held, Opened.Holds, Expected.Holds, fieldsHold_cons, or_comm, or_assoc,
        or_left_comm] using hx
  | _ =>
      right
      simpa [Held, Opened.Holds, Expected.Holds, holds_array_iff, or_comm, or_assoc,
        or_left_comm] using hx

/-- What is read holds numbers of the tokens, and of what was read before. -/
theorem mem_or_held_of_readFrom
    {stack : List Opened} {expected : Expected} {ts : List Token} {value : Json}
    (h : readFrom stack expected ts = .ok value)
    (hx : Holds x value) :
    .number x ∈ ts ∨ Held x stack expected := by
  induction ts generalizing stack expected with
  | nil =>
      cases expected with
      | separator done =>
          rw [readFrom] at h
          split at h
          · obtain rfl := Except.ok.inj h
            exact .inr (.inr hx)
          · cases h
      | _ => cases h
  | cons token rest ih =>
      rcases step_or_error stack expected token with ⟨stack', expected', hstep⟩
        | ⟨rfl, hvalue⟩ | herror
      · rw [hstep.readFrom_cons] at h
        rcases ih h with hx | hx
        · exact .inl (List.mem_cons_of_mem _ hx)
        · exact (hstep.held hx).imp_left fun htoken => by rw [htoken]; exact List.mem_cons_self
      · cases (readFrom_tooLong hvalue rest).symm.trans h
      · cases (herror rest).symm.trans h

/-- A number that a value holds is written in its text. -/
theorem mem_tokens_of_holds
    {s : String} {value : Json}
    (h : parse s = .ok value)
    (hx : Holds x value) :
    .number x ∈ tokens s.toList := by
  rcases mem_or_held_of_readFrom h hx with hx | ⟨opened, hopened, -⟩ | hx
  · exact hx
  · cases hopened
  · cases hx

/-- An integer is a token only if its digits are not too many. -/
theorem hasText_of_numberToken
    {n : Numeral}
    (h : numberToken n = .number x) :
    x.HasText := by
  unfold numberToken at h
  split at h
  · cases hinteger : Numeral.integer n.negative n.whole with
    | error fault => simp [hinteger] at h
    | ok i =>
        rw [hinteger] at h
        obtain rfl := Token.number.inj h
        exact Number.isWritable_of_integer hinteger
  · obtain rfl := Token.number.inj h
    trivial

/-- Every number among the tokens of a text can be written. -/
theorem hasText_of_mem_tokens
    {s : List Char}
    (h : .number x ∈ tokens s) :
    x.HasText := by
  cases x with
  | float y => trivial
  | int i =>
      obtain ⟨n, htoken, -⟩ := isWrittenIn_of_mem_tokens h trivial
      exact hasText_of_numberToken htoken.symm

/-- Every number of a value that is read can be written out. -/
theorem hasText_of_holds
    {s : String} {value : Json}
    (h : parse s = .ok value)
    (hx : Holds x value) :
    x.HasText :=
  hasText_of_mem_tokens (mem_tokens_of_holds h hx)

end Lemmas

end Json
end Spreadsheet
