import Spreadsheet.Json.Reader

/-!
# Steps of the reading

Reading a structured value is a machine with a stack: a token changes what is open and what
is expected, or ends the reading at once.  What the token does never depends on the tokens
behind it.

Results: reading goes on where a step leads to (`Step.readFrom_cons`), and ends where there
is none (`step_or_error`); whatever is open can still be completed (`exists_completion`).
-/

namespace Spreadsheet
namespace Json

/-- A value may come next. -/
def Expected.TakesValue : Expected → Prop
  | .value | .firstItem => True
  | _ => False

/-- A key may come next, after these fields. -/
def Expected.TakesKey (fields : Fields) : Expected → Prop
  | .firstKey fields' | .key fields' => fields' = fields
  | _ => False

/-- What a token does to what is open and to what is expected. -/
inductive Step : List Opened → Expected → Token → List Opened → Expected → Prop
  | openArray
      {stack : List Opened} {expected : Expected}
      (hvalue : expected.TakesValue) :
      Step stack expected .openArray (.array [] :: stack) .firstItem
  | openObject
      {stack : List Opened} {expected : Expected}
      (hvalue : expected.TakesValue) :
      Step stack expected .openObject stack (.firstKey [])
  | single
      {stack : List Opened} {expected : Expected} {token : Token} {done : Json}
      (hvalue : expected.TakesValue)
      (hdone : token.value? = some done) :
      Step stack expected token stack (.separator done)
  | emptyArray
      {stack : List Opened} {items : List Json} :
      Step (.array items :: stack) .firstItem .closeArray stack
        (.separator (.array items.reverse))
  | emptyObject
      {stack : List Opened} {fields : Fields} :
      Step stack (.firstKey fields) .closeObject stack (.separator (ofFields fields.reverse))
  | key
      {stack : List Opened} {expected : Expected} {fields : Fields} {name : String}
      (hkey : expected.TakesKey fields) :
      Step stack expected (.text name) stack (.colon fields name)
  | colon
      {stack : List Opened} {fields : Fields} {name : String} :
      Step stack (.colon fields name) .colon (.object fields name :: stack) .value
  | nextItem
      {stack : List Opened} {items : List Json} {done : Json} :
      Step (.array items :: stack) (.separator done) .comma (.array (done :: items) :: stack) .value
  | closeArray
      {stack : List Opened} {items : List Json} {done : Json} :
      Step (.array items :: stack) (.separator done) .closeArray stack
        (.separator (.array (done :: items).reverse))
  | nextField
      {stack : List Opened} {fields : Fields} {name : String} {done : Json} :
      Step (.object fields name :: stack) (.separator done) .comma stack
        (.key ((name, done) :: fields))
  | closeObject
      {stack : List Opened} {fields : Fields} {name : String} {done : Json} :
      Step (.object fields name :: stack) (.separator done) .closeObject stack
        (.separator (ofFields ((name, done) :: fields).reverse))

section Lemmas

variable {stack stack' : List Opened} {expected expected' : Expected} {token : Token}

theorem Expected.takesValue_iff :
    expected.TakesValue ↔ expected = .value ∨ expected = .firstItem := by
  cases expected <;> simp [TakesValue]

theorem Expected.takesKey_iff
    {fields : Fields} :
    expected.TakesKey fields ↔ expected = .firstKey fields ∨ expected = .key fields := by
  cases expected <;> simp [TakesKey]

/-- Reading goes on where the step leads to. -/
theorem Step.readFrom_cons
    (h : Step stack expected token stack' expected')
    (rest : List Token) :
    readFrom stack expected (token :: rest) = readFrom stack' expected' rest := by
  cases h with
  | openArray hvalue | openObject hvalue =>
      rcases Expected.takesValue_iff.1 hvalue with rfl | rfl <;> simp [readFrom]
  | single hvalue hdone =>
      rcases Expected.takesValue_iff.1 hvalue with rfl | rfl <;>
        cases token <;> simp_all [readFrom, Token.value?]
  | key hkey =>
      rcases Expected.takesKey_iff.1 hkey with rfl | rfl <;> simp [readFrom]
  | _ => simp [readFrom]

/-- What begins a value begins it wherever one may come next. -/
theorem Step.of_takesValue
    (h : Step stack .value token stack' expected')
    (hvalue : expected.TakesValue) :
    Step stack expected token stack' expected' := by
  cases h with
  | openArray => exact .openArray hvalue
  | openObject => exact .openObject hvalue
  | single _ hdone => exact .single hvalue hdone
  | key hkey => cases hkey

/-- Where a value is expected, a token begins one, or is an integer of too many digits, or is
out of place. -/
theorem step_or_error_value
    (stack : List Opened) (token : Token) :
    (∃ stack' expected', Step stack .value token stack' expected')
      ∨ token = .tooLong
      ∨ ∀ rest, readFrom stack .value (token :: rest) = .error .malformed := by
  cases hdone : token.value? with
  | some done => exact .inl ⟨_, _, .single trivial hdone⟩
  | none =>
      cases token with
      | openArray => exact .inl ⟨_, _, .openArray trivial⟩
      | openObject => exact .inl ⟨_, _, .openObject trivial⟩
      | tooLong => exact .inr (.inl rfl)
      | null | bool | number | text => cases hdone
      | _ => exact .inr (.inr fun rest => by simp [readFrom, Token.value?])

/-- After a value, a token closes or goes on with what is open last, or is out of place. -/
theorem step_or_error_separator
    (stack : List Opened) (done : Json) (token : Token) :
    (∃ stack' expected', Step stack (.separator done) token stack' expected')
      ∨ ∀ rest, readFrom stack (.separator done) (token :: rest) = .error .malformed := by
  rcases stack with _ | ⟨items | ⟨fields, name⟩, stack⟩
  · exact .inr fun rest => by simp [readFrom]
  · cases token with
    | comma => exact .inl ⟨_, _, .nextItem⟩
    | closeArray => exact .inl ⟨_, _, .closeArray⟩
    | _ => exact .inr fun rest => by simp [readFrom]
  · cases token with
    | comma => exact .inl ⟨_, _, .nextField⟩
    | closeObject => exact .inl ⟨_, _, .closeObject⟩
    | _ => exact .inr fun rest => by simp [readFrom]

/-- A token makes a step or ends the reading, as an integer of too many digits in the place
of a value or as a token out of place. -/
theorem step_or_error
    (stack : List Opened) (expected : Expected) (token : Token) :
    (∃ stack' expected', Step stack expected token stack' expected')
      ∨ (token = .tooLong ∧ expected.TakesValue)
      ∨ ∀ rest, readFrom stack expected (token :: rest) = .error .malformed := by
  cases expected with
  | value => exact (step_or_error_value stack token).imp_right (.imp_left fun h => ⟨h, trivial⟩)
  | firstItem =>
      by_cases hend : token = .closeArray ∧ ∃ items outer, stack = .array items :: outer
      · obtain ⟨rfl, items, outer, rfl⟩ := hend
        exact .inl ⟨_, _, .emptyArray⟩
      · have hfirst : ∀ rest, readFrom stack .firstItem (token :: rest)
            = readFrom stack .value (token :: rest) := by
          intro rest
          simp only [readFrom]
          split
          · exact absurd ⟨rfl, _, _, rfl⟩ hend
          · rfl
        simp only [hfirst]
        refine (step_or_error_value stack token).imp ?_ (.imp_left fun h => ⟨h, trivial⟩)
        rintro ⟨stack', expected', hstep⟩
        exact ⟨stack', expected', hstep.of_takesValue trivial⟩
  | firstKey fields =>
      cases token with
      | closeObject => exact .inl ⟨_, _, .emptyObject⟩
      | text name => exact .inl ⟨_, _, .key rfl⟩
      | _ => exact .inr (.inr fun rest => by simp [readFrom])
  | key fields =>
      cases token with
      | text name => exact .inl ⟨_, _, .key rfl⟩
      | _ => exact .inr (.inr fun rest => by simp [readFrom])
  | colon fields name =>
      cases token with
      | colon => exact .inl ⟨_, _, .colon⟩
      | _ => exact .inr (.inr fun rest => by simp [readFrom])
  | separator done => exact (step_or_error_separator stack done token).imp_right .inr

/-- Where a value is expected, an integer of too many digits ends the reading. -/
theorem readFrom_tooLong
    (h : expected.TakesValue)
    (rest : List Token) :
    readFrom stack expected (.tooLong :: rest) = .error .tooManyDigits := by
  rcases Expected.takesValue_iff.1 h with rfl | rfl <;> simp [readFrom]

/-- What is open can be closed. -/
theorem exists_closing
    (stack : List Opened) (done : Json) :
    ∃ back value, readFrom stack (.separator done) back = .ok value := by
  induction stack generalizing done with
  | nil => exact ⟨[], done, by simp [readFrom]⟩
  | cons opened stack ih =>
      cases opened with
      | array items =>
          obtain ⟨back, value, hback⟩ := ih (.array (done :: items).reverse)
          exact ⟨.closeArray :: back, value, (Step.closeArray.readFrom_cons back).trans hback⟩
      | object fields name =>
          obtain ⟨back, value, hback⟩ := ih (ofFields ((name, done) :: fields).reverse)
          exact ⟨.closeObject :: back, value, (Step.closeObject.readFrom_cons back).trans hback⟩

end Lemmas

end Json
end Spreadsheet
