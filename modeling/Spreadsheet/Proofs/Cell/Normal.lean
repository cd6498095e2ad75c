import Spreadsheet.Cell.Record
import Spreadsheet.Proofs.Cell.Rendering

/-!
# The normal form of cells

A cell is stored by four fields: a value, a type, a formula and a format.  Read one by one,
they could contradict each other: a formula beside another value, a type of formulas without
a formula, a format of nothing.  Before they are read they are therefore brought into a form
in which they agree, and the cells are exactly what these forms say.

Results: a cell is read from its normalised fields, each on its own (`map_parts_ofFields?`);
the cells are the parts in normal form (`exists_parts_eq_iff`); and every cell that is read
or typed is one that its own record gives back (`isNormal_of_accepted`).
-/

namespace Spreadsheet
namespace Cell

/-- The fields of a cell, each on its own. -/
structure Parts where
  value : Option Scalar
  type : String
  formula : Option String
  format : Option String

/-- The fields that the cell has. -/
def parts (c : Cell) : Parts where
  value := c.value?
  type := c.typeName
  formula := c.formula?
  format := c.format?

/-- The names that a type field may give. -/
def typeNames : List String :=
  [Kind.text.name, Kind.number.name, Kind.currency.name, Kind.date.name, Kind.checkbox.name,
    formulaTypeName]

/-- The scalar of a value field, which may be missing. -/
def valueField? : Option Json → Option (Option Scalar)
  | none | some .null => some none
  | some value => (scalarValue? value).map some

/-- The name that a type field gives, that of texts if there is none. -/
def typeField? : Option Json → Option String
  | none => some Kind.text.name
  | some (.text name) => if name ∈ typeNames then some name else none
  | some _ => none

namespace Parts

/-- The parts that the fields of an object give, each read for itself. -/
def ofFields? (fields : Json.Fields) : Option Parts := do
  return {
    value := ← valueField? (Json.getField? fields "value")
    type := ← typeField? (Json.getField? fields "type")
    formula := ← formatField? (Json.getField? fields "formula")
    format := ← formatField? (Json.getField? fields "format") }

/-- The fields that store the parts, those that are missing left out. -/
def fields (p : Parts) : Json.Fields :=
  (p.value.map fun value => ("value", Json.ofScalar value)).toList
    ++ [("type", .text p.type)] ++ optionalField "formula" p.formula
    ++ optionalField "format" p.format

/-- The parts agree with each other. -/
structure IsNormal (p : Parts) : Prop where
  formula_iff : p.formula.isSome ↔ p.type = formulaTypeName
  value_of_formula : ∀ source ∈ p.formula, p.value = some (.text source) ∧ source ≠ ""
  blank : p.value = none → p.type = Kind.text.name ∧ p.formula = none ∧ p.format = none

end Parts

/-- The fields without a formula, and without a type and a format of nothing. -/
def valueFields (fields : Json.Fields) : Json.Fields :=
  let kept := Json.eraseField fields "formula"
  match Json.getField? fields "value" with
  | none | some .null =>
      Json.eraseField (Json.setField kept "type" (.text Kind.text.name)) "format"
  | some _ => kept

/-- The fields of an object made to agree with each other. -/
def normalFields (fields : Json.Fields) : Json.Fields :=
  match Json.getField? fields "type" with
  | some (.text type) =>
      if type = formulaTypeName then
        match sourceField fields with
        | .text source =>
            if source = "" then
              valueFields (Json.setField fields "type" (.text Kind.text.name))
            else
              Json.setField (Json.setField fields "value" (.text source)) "formula" (.text source)
        | _ => valueFields (Json.setField fields "type" (.text Kind.text.name))
      else
        valueFields fields
  | _ => valueFields fields

/-- The record of the cell gives an equal cell back. -/
def IsRestored (c : Cell) : Prop :=
  ∃ again, ofRecord? (.object c.parts.fields) = some again ∧ again.equal c = true

end Cell

/-- The fields that a typed entry gives its cell. -/
def Entry.fields (entry : Entry) : Json.Fields :=
  [("value", Json.ofValue entry.value?), ("type", .text entry.typeName)]
    ++ match entry with
      | .formula source => [("formula", .text source)]
      | .currency symbol _ => [("format", .text (currencyFormat symbol))]
      | _ => []

section Lemmas

namespace Json

variable {fields : Fields} {key other : String}

@[simp] theorem getField?_eraseField :
    getField? (eraseField fields key) key = none := by
  rw [getField?, eraseField, List.lookup_eq_none_iff]
  intro field hfield
  have hne : field.1 ≠ key := bne_iff_ne.1 (List.mem_filter.1 hfield).2
  exact bne_iff_ne.2 hne.symm

theorem getField?_eraseField_of_ne
    (h : other ≠ key) :
    getField? (eraseField fields key) other = getField? fields other := by
  induction fields with
  | nil => rfl
  | cons field rest ih =>
      obtain ⟨k, v⟩ := field
      by_cases hk : k = key
      · have hdrop : eraseField ((k, v) :: rest) key = eraseField rest key :=
          List.filter_cons_of_neg (by simp [hk])
        have hskip : getField? ((k, v) :: rest) other = getField? rest other := by
          have hb : (other == k) = false := by simpa [hk] using h
          simp only [getField?, List.lookup_cons, hb]
        rw [hdrop, hskip, ih]
      · have hkeep : eraseField ((k, v) :: rest) key = (k, v) :: eraseField rest key :=
          List.filter_cons_of_pos (by simpa using hk)
        rw [hkeep, getField?, getField?, List.lookup_cons, List.lookup_cons]
        simp only [getField?] at ih
        rw [ih]

end Json

namespace Cell

variable {fields : Json.Fields} {c : Cell} {p : Parts} {raw : String}

/-- The names of kinds are those of the types that are not the type of formulas. -/
theorem exists_name_iff
    {name : String} :
    (∃ kind : Kind, kind.name = name) ↔ name ∈ typeNames ∧ name ≠ formulaTypeName := by
  constructor
  · rintro ⟨kind, rfl⟩
    exact ⟨by cases kind <;> decide, name_ne_formulaTypeName kind⟩
  · rintro ⟨hname, hne⟩
    simp only [typeNames, List.mem_cons, List.not_mem_nil, or_false] at hname
    rcases hname with rfl | rfl | rfl | rfl | rfl | rfl
    · exact ⟨_, rfl⟩
    · exact ⟨_, rfl⟩
    · exact ⟨_, rfl⟩
    · exact ⟨_, rfl⟩
    · exact ⟨_, rfl⟩
    · exact absurd rfl hne

theorem ofName?_eq_some
    {name : String} {kind : Kind}
    (h : Kind.ofName? name = some kind) :
    name = kind.name := by
  unfold Kind.ofName? at h
  split at h <;> cases h <;> rfl

/-- A type other than that of formulas is the name of a kind. -/
theorem map_name_kindField?
    {type : Option Json}
    (h : type ≠ some (.text formulaTypeName)) :
    (kindField? type).map Kind.name = typeField? type := by
  match type with
  | none => rfl
  | some .null | some (.bool _) | some (.number _) | some (.array _) | some (.object _) => rfl
  | some (.text name) =>
      have hne : name ≠ formulaTypeName := fun hname => h (by rw [hname])
      simp only [kindField?, typeField?]
      cases hkind : Kind.ofName? name with
      | some kind =>
          obtain rfl := ofName?_eq_some hkind
          rw [if_pos (exists_name_iff.1 ⟨kind, rfl⟩).1]
          rfl
      | none =>
          rw [if_neg]
          · rfl
          · intro hname
            obtain ⟨kind, rfl⟩ := exists_name_iff.2 ⟨hname, hne⟩
            simp at hkind

/-- Without a value, whatever else the fields say is left out. -/
theorem ofFields?_valueFields_of_missing
    (h : Json.getField? fields "value" = none ∨ Json.getField? fields "value" = some .null) :
    Parts.ofFields? (valueFields fields) = some blank.parts := by
  have hfields : valueFields fields = Json.eraseField (Json.setField
      (Json.eraseField fields "formula") "type" (.text Kind.text.name)) "format" := by
    rcases h with h | h <;> simp only [valueFields, h]
  have hvalue : valueField? (Json.getField? fields "value") = some none := by
    rcases h with h | h <;> rw [h] <;> rfl
  have htype : typeField? (some (.text Kind.text.name)) = some Kind.text.name := rfl
  have hmissing : formatField? none = some none := rfl
  simp only [Parts.ofFields?, hfields, ne_eq, String.reduceEq, not_false_eq_true,
    Json.getField?_eraseField, Json.getField?_eraseField_of_ne, Json.getField?_setField,
    Json.getField?_setField_of_ne, hvalue, htype, hmissing]
  rfl

/-- Beside a value that is no formula, a formula is left out. -/
theorem ofFields?_valueFields_of_value
    {value : Json}
    (h : Json.getField? fields "value" = some value)
    (hnull : value ≠ .null) :
    Parts.ofFields? (valueFields fields) = do
      return {
        value := some (← scalarValue? value)
        type := ← typeField? (Json.getField? fields "type")
        formula := none
        format := ← formatField? (Json.getField? fields "format") } := by
  have hfields : valueFields fields = Json.eraseField fields "formula" := by
    simp only [valueFields, h]
  have hvalue : valueField? (some value) = (scalarValue? value).map some := by
    cases value with
    | null => exact absurd rfl hnull
    | _ => rfl
  have hmissing : formatField? none = some none := rfl
  simp only [Parts.ofFields?, hfields, ne_eq, String.reduceEq, not_false_eq_true,
    Json.getField?_eraseField, Json.getField?_eraseField_of_ne, h, hvalue, hmissing]
  cases scalarValue? value <;> rfl

theorem ofValueField?_of_ne_null
    {value : Json} {type format : Option Json}
    (h : value ≠ .null) :
    ofValueField? (some value) type format = do
      return .plain (← scalarValue? value) (← kindField? type) (← formatField? format) := by
  cases value with
  | null => exact absurd rfl h
  | _ => rfl

/-- Without the type of formulas, only the value, the type and the format are read. -/
theorem map_parts_ofValueField?
    (h : Json.getField? fields "type" ≠ some (.text formulaTypeName)) :
    (ofValueField? (Json.getField? fields "value") (Json.getField? fields "type")
      (Json.getField? fields "format")).map parts = Parts.ofFields? (valueFields fields) := by
  cases hvalue : Json.getField? fields "value" with
  | none => rw [ofFields?_valueFields_of_missing (.inl hvalue)]; rfl
  | some value =>
      by_cases hnull : value = .null
      · rw [ofFields?_valueFields_of_missing (.inr (hnull ▸ hvalue)), hnull]; rfl
      · rw [ofFields?_valueFields_of_value hvalue hnull, ofValueField?_of_ne_null hnull,
          ← map_name_kindField? h]
        cases scalarValue? value <;> cases kindField? (Json.getField? fields "type") <;>
          cases formatField? (Json.getField? fields "format") <;> rfl

/-- With the type of formulas but without a source, the type is that of texts. -/
theorem map_parts_of_no_source :
    (ofValueField? (Json.getField? fields "value") none (Json.getField? fields "format")).map parts
      = Parts.ofFields? (valueFields (Json.setField fields "type" (.text Kind.text.name))) := by
  have htype : Json.getField? (Json.setField fields "type" (.text Kind.text.name)) "type"
      = some (.text Kind.text.name) := Json.getField?_setField ..
  rw [← map_parts_ofValueField? (by simpa [htype] using name_ne_formulaTypeName .text), htype,
    Json.getField?_setField_of_ne _ _ (by decide), Json.getField?_setField_of_ne _ _ (by decide)]
  rfl

/-- With the type of formulas and a source, the source is both the value and the formula. -/
theorem map_parts_of_source
    {source : String}
    (htype : Json.getField? fields "type" = some (.text formulaTypeName))
    (h : source ≠ "") :
    (do return Cell.formula source h (← formatField? (Json.getField? fields "format"))).map parts
      = Parts.ofFields? (Json.setField (Json.setField fields "value" (.text source)) "formula"
        (.text source)) := by
  have hname : typeField? (some (.text formulaTypeName)) = some formulaTypeName := rfl
  have hvalue : valueField? (some (.text source)) = some (some (.text source)) := rfl
  have hformula : formatField? (some (.text source)) = some (some source) := rfl
  simp only [Parts.ofFields?, ne_eq, String.reduceEq, not_false_eq_true, Json.getField?_setField,
    Json.getField?_setField_of_ne, htype, hname, hvalue, hformula]
  cases formatField? (Json.getField? fields "format") <;> rfl

/-- A cell is read from its normalised fields, each on its own. -/
theorem map_parts_ofFields?
    (fields : Json.Fields) :
    (ofFields? fields).map parts = Parts.ofFields? (normalFields fields) := by
  fun_cases normalFields fields with
  | case1 htype hsource =>
      rw [← map_parts_of_no_source]
      simp [ofFields?, htype, hsource]
  | case2 source hsource hne htype =>
      rw [← map_parts_of_source htype hne]
      simp [ofFields?, htype, hsource, hne]
  | case3 hsource htype =>
      rw [← map_parts_of_no_source]
      simp only [ofFields?, htype, if_true]
  | case4 type htype hname =>
      rw [← map_parts_ofValueField? (by simpa [htype] using hname)]
      simp [ofFields?, htype, hname]
  | case5 htype =>
      rw [← map_parts_ofValueField? (htype _)]
      unfold ofFields?
      split
      · next type h => exact absurd h (htype type)
      · rfl

/-- The cells are the parts in normal form, of a type that there is. -/
theorem exists_parts_eq_iff :
    (∃ c : Cell, c.parts = p) ↔ p.IsNormal ∧ p.type ∈ typeNames := by
  constructor
  · rintro ⟨c, rfl⟩
    cases c with
    | blank => exact ⟨⟨by decide, by simp [parts, formula?], fun _ => ⟨rfl, rfl, rfl⟩⟩, by decide⟩
    | plain value kind format =>
        refine ⟨⟨?_, by simp [parts, formula?], by simp [parts, value?]⟩,
          (exists_name_iff.1 ⟨kind, rfl⟩).1⟩
        simpa [parts, formula?, typeName] using name_ne_formulaTypeName kind
    | formula source h format =>
        refine ⟨⟨by simp [parts, formula?, typeName], ?_, by simp [parts, value?]⟩,
          List.mem_of_elem_eq_true rfl⟩
        rintro _ ⟨⟩
        exact ⟨rfl, h⟩
  · obtain ⟨value, type, formula, format⟩ := p
    rintro ⟨hnormal, htype⟩
    cases formula with
    | some source =>
        obtain ⟨hvalue, hne⟩ := hnormal.value_of_formula source rfl
        have htype : type = formulaTypeName := hnormal.formula_iff.1 rfl
        exact ⟨.formula source hne format, by simp_all [parts, value?, typeName, formula?, format?]⟩
    | none =>
        have hother : type ≠ formulaTypeName := fun h => by simpa using hnormal.formula_iff.2 h
        obtain ⟨kind, rfl⟩ := exists_name_iff.2 ⟨htype, hother⟩
        cases value with
        | some value => exact ⟨.plain value kind format, rfl⟩
        | none =>
            obtain ⟨htext, -, hformat⟩ := hnormal.blank rfl
            exact ⟨.blank, by simp_all [parts, value?, typeName, formula?, format?]⟩

theorem isNormal_parts
    (c : Cell) :
    c.parts.IsNormal :=
  (exists_parts_eq_iff.1 ⟨c, rfl⟩).1

/-- The record of a cell stores its parts, those that are missing left out. -/
theorem record_eq_fields
    (c : Cell) :
    c.record = .object c.parts.fields := by
  cases c <;> rfl

theorem isRestored_of_equal_self
    (h : c.equal c = true) :
    c.IsRestored :=
  ⟨c, record_eq_fields c ▸ ofRecord?_record c, h⟩

/-- A typed entry gives its cell by the fields of an object, as a record does. -/
theorem ofFields?_fields
    {entry : Entry}
    (hentry : Entry.ofText raw = .ok entry)
    (h : ofTyped? entry = some c) :
    ofFields? entry.fields = some c := by
  cases entry with
  | nothing => cases h
  | formula source =>
      obtain ⟨hne, h⟩ := Option.dite_none_left_eq_some.1 h
      obtain rfl := Option.some.inj h
      simp [Entry.fields, Entry.value?, Entry.typeName, ofFields?, Json.getField?, sourceField,
        Json.ofValue, Json.ofScalar, Json.isFalsy, hne, formatField?, List.lookup_cons]
  | _ =>
      obtain rfl := Option.some.inj h
      rfl

/-- Every cell that is read or typed is in normal form, and its record gives an equal cell
back unless it holds the undefined number, which is never typed. -/
theorem isNormal_of_accepted :
    (∀ {fields : Json.Fields} {c : Cell}, ofRecord? (.object fields) = some c →
      Parts.ofFields? (normalFields fields) = some c.parts
        ∧ c.parts.IsNormal
        ∧ (c.parts.value ≠ some (.number (.float .nan)) → c.IsRestored))
    ∧ ∀ {raw : String} {c : Cell}, ofInput? raw = .ok (some c) →
      (∃ entry, Entry.ofText raw = .ok entry
        ∧ Parts.ofFields? (normalFields entry.fields) = some c.parts)
        ∧ c.parts.IsNormal
        ∧ c.parts.value ≠ none
        ∧ c.IsRestored := by
  constructor
  · intro fields c h
    refine ⟨?_, isNormal_parts c, fun hnan => isRestored_of_equal_self (equal_self hnan)⟩
    rw [← map_parts_ofFields?, show ofFields? fields = some c from h]
    rfl
  · intro raw c h
    obtain ⟨entry, hentry, hcell⟩ := bind_eq_ok_iff.1 h
    have hcell : ofTyped? entry = some c := Except.ok.inj hcell
    refine ⟨⟨entry, hentry, ?_⟩, isNormal_parts c, ?_,
      isRestored_of_equal_self (equalContents_of_ofInput? h)⟩
    · rw [← map_parts_ofFields?, ofFields?_fields hentry hcell]
      rfl
    · intro hvalue
      obtain rfl := value?_eq_none_iff.1 hvalue
      exact ofTyped?_ne_blank entry hcell

/-- A formula that counts as nothing beside a value that is one. -/
def contradictoryFields : Json.Fields :=
  [("formula", .bool false), ("type", .text formulaTypeName), ("value", .text "=A1"),
    ("format", .text "currency")]

/-- The amount of two and a half pounds. -/
def twoAndHalfPounds : Cell :=
  .plain (.number (.float (Binary64.ofDecimal false 25 (-1)))) .currency (some "currency:£")

theorem isNormal_of_accepted_contradictory :
    (Cell.formula "=A1" (by decide) (some "currency")).parts.IsNormal
      ∧ (Cell.formula "=A1" (by decide) (some "currency")).IsRestored
      ∧ twoAndHalfPounds.parts.IsNormal
      ∧ twoAndHalfPounds.parts.value ≠ none
      ∧ twoAndHalfPounds.IsRestored := by
  have hread : ofRecord? (.object contradictoryFields)
      = some (.formula "=A1" (by decide) (some "currency")) := by decide
  have htyped : ofInput? " £2.50" = .ok (some twoAndHalfPounds) := by decide +kernel
  obtain ⟨-, hnormal, hrestored⟩ := isNormal_of_accepted.1 hread
  obtain ⟨-, hamount, hvalue, hagain⟩ := isNormal_of_accepted.2 htyped
  exact ⟨hnormal, hrestored (by decide), hamount, hvalue, hagain⟩

end Cell
end Lemmas

end Spreadsheet
