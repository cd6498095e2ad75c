import Spreadsheet.Document.Printer
import Spreadsheet.Document.Reader
import Spreadsheet.Proofs.Except
import Spreadsheet.Proofs.Json.Lenient
import Spreadsheet.Proofs.Json.RoundTrip
import Spreadsheet.Proofs.View

/-!
# Stored documents are read as they were

The text that stores a grid and its view is read as a document of the same rows,
filled up to the width of the grid, with the same frozen counts and styles.

Result: reading a stored document gives what was stored (`parse_of_write`).
-/

namespace Spreadsheet
namespace Document

section Lemmas

/-- The parts of a document are read one by one. -/
theorem ofFields?_eq_some
    {fields : Json.Fields} {d : Document}
    (h : ofFields? fields = some d) :
    rowsField? ((Json.getField? fields "data").getD .null) = some d.rows
      ∧ frozenField? 1 (field? fields "frozenRows" "frozen_rows") = some d.frozenRows
      ∧ frozenField? 0 (field? fields "frozenColumns" "frozen_columns") = some d.frozenColumns
      ∧ stylesField? (field? fields "columnMeta" "column_meta") = some d.styles := by
  obtain ⟨rows, hrows, h⟩ := Option.bind_eq_some_iff.1 h
  obtain ⟨frozenRows, hfrozenRows, h⟩ := Option.bind_eq_some_iff.1 h
  obtain ⟨frozenColumns, hfrozenColumns, h⟩ := Option.bind_eq_some_iff.1 h
  obtain ⟨styles, hstyles, h⟩ := Option.bind_eq_some_iff.1 h
  obtain rfl := Option.some.inj h
  exact ⟨hrows, hfrozenRows, hfrozenColumns, hstyles⟩

theorem ofRecord_eq_ok
    {value : Json} {d : Document}
    (h : ofRecord value = .ok d) :
    ∃ fields, value = .object fields ∧ ofFields? fields = some d := by
  unfold ofRecord at h
  dsimp only at h
  split at h
  · next d' hd =>
      obtain rfl := Except.ok.inj h
      split at hd
      · exact ⟨_, rfl, hd⟩
      · cases hd
  · cases h

theorem parse_eq_ok
    {text : String} {d : Document}
    (h : parse text = .ok d) :
    ∃ fields, Json.parse text = .ok (.object fields) ∧ ofFields? fields = some d := by
  unfold parse at h
  split at h
  · next value hvalue =>
      obtain ⟨fields, rfl, hfields⟩ := ofRecord_eq_ok h
      exact ⟨fields, hvalue, hfields⟩
  · cases h
  · cases h

theorem mapM_map_eq_some
    {α β : Type} {f : α → β} {read : β → Option α} {xs : List α}
    (h : ∀ x ∈ xs, read (f x) = some x) :
    (xs.map f).mapM read = some xs := by
  induction xs with
  | nil => rfl
  | cons x xs ih =>
      rw [List.map_cons, List.mapM_cons, h x (by simp),
        ih fun y hy => h y (List.mem_cons_of_mem _ hy)]
      rfl

theorem contentField?_contentRecord
    (cell : Option Cell) :
    contentField? (contentRecord cell) = some cell := by
  cases cell with
  | none => rfl
  | some c =>
      have hrecord := Cell.ofRecord?_record c
      cases c <;> simp_all [contentRecord, contentField?, Cell.record]

theorem rowsField?_array
    (rows : List Row) :
    rowsField? (.array (rows.map fun row => .array (row.map contentRecord))) = some rows := by
  rw [rowsField?, items?]
  refine mapM_map_eq_some fun row _ => ?_
  rw [items?]
  exact mapM_map_eq_some fun cell _ => contentField?_contentRecord cell

theorem hasDistinctKeys_ofScalar
    (value : Scalar) :
    (Json.ofScalar value).HasDistinctKeys := by
  cases value <;> trivial

theorem hasDistinctKeys_object
    {fields : Json.Fields}
    (hkeys : (fields.map Prod.fst).Nodup)
    (hvalues : ∀ field ∈ fields, field.2.HasDistinctKeys) :
    (Json.object fields).HasDistinctKeys :=
  ⟨hkeys, Json.fieldsHaveDistinctKeys_iff.2 hvalues⟩

theorem hasDistinctKeys_array
    {items : List Json}
    (h : ∀ item ∈ items, item.HasDistinctKeys) :
    (Json.array items).HasDistinctKeys :=
  Json.itemsHaveDistinctKeys_iff.2 h

theorem hasDistinctKeys_contentRecord
    (cell : Option Cell) :
    (contentRecord cell).HasDistinctKeys := by
  cases cell with
  | none => trivial
  | some c =>
      cases c with
      | blank =>
          refine hasDistinctKeys_object (by decide) ?_
          simp [Json.HasDistinctKeys]
      | plain value kind format =>
          cases format with
          | none =>
              refine hasDistinctKeys_object (by simp [Cell.optionalField]) ?_
              simp [Cell.optionalField, hasDistinctKeys_ofScalar, Json.HasDistinctKeys]
          | some s =>
              refine hasDistinctKeys_object (by simp [Cell.optionalField]) ?_
              simp [Cell.optionalField, hasDistinctKeys_ofScalar, Json.HasDistinctKeys]
      | formula source h format =>
          cases format with
          | none =>
              refine hasDistinctKeys_object (by simp [Cell.optionalField]) ?_
              simp [Cell.optionalField, Json.HasDistinctKeys]
          | some s =>
              refine hasDistinctKeys_object (by simp [Cell.optionalField]) ?_
              simp [Cell.optionalField, Json.HasDistinctKeys]

/-- The style of a column is read as it was stored. -/
theorem styleEntry?_of_styleField
    {entry : Int × ColumnStyle} {field : String × Json}
    (h : View.styleField entry = .ok field) :
    styleEntry? field = some entry := by
  obtain ⟨col, width, hidden⟩ := entry
  obtain ⟨text, htext, h⟩ := bind_eq_ok_iff.1 h
  obtain rfl := Except.ok.inj h
  obtain ⟨hcol, rfl⟩ := Json.integerText_eq_ok htext
  cases width with
  | none =>
      simp [Json.wholeText?_repr hcol, styleEntry?, styleField?, Json.getField?, List.lookup_cons,
        widthField?, hiddenField?]
  | some w =>
      simp [Json.wholeText?_repr hcol, styleEntry?, styleField?, Json.getField?, List.lookup_cons,
        widthField?, hiddenField?, Json.ofInt, Json.wholeNumber?]

theorem hasDistinctKeys_styleField
    {entry : Int × ColumnStyle} {field : String × Json}
    (h : View.styleField entry = .ok field) :
    field.2.HasDistinctKeys := by
  obtain ⟨text, htext, h⟩ := bind_eq_ok_iff.1 h
  obtain rfl := Except.ok.inj h
  refine hasDistinctKeys_object (by simp) ?_
  cases entry.2.width <;> simp [Json.HasDistinctKeys, Json.ofInt]

section Styles

variable {styles : ColumnStyles} {fields : Json.Fields}

theorem mapM_styleEntry?
    (h : List.Forall₂ (fun entry field => View.styleField entry = .ok field) styles fields) :
    fields.mapM styleEntry? = some styles := by
  induction h with
  | nil => rfl
  | cons hentry hrest ih =>
      rw [List.mapM_cons, styleEntry?_of_styleField hentry, ih]
      rfl

theorem hasDistinctKeys_styleFields
    (h : List.Forall₂ (fun entry field => View.styleField entry = .ok field) styles fields) :
    ∀ field ∈ fields, field.2.HasDistinctKeys := by
  induction h with
  | nil => simp
  | cons hentry hrest ih =>
      intro field hfield
      rcases List.mem_cons.1 hfield with rfl | hfield
      · exact hasDistinctKeys_styleField hentry
      · exact ih field hfield

/-- Different columns have different names. -/
theorem nodup_keys
    (hsorted : styles.IsSorted)
    (h : List.Forall₂ (fun entry field => View.styleField entry = .ok field) styles fields) :
    (fields.map Prod.fst).Nodup := by
  have hcolumns : (fields.map Prod.fst).map (fun key => Json.wholeText? key.toList)
      = styles.map fun entry => some entry.1 := by
    induction h with
    | nil => rfl
    | cons hentry hrest ih =>
        obtain ⟨text, htext, hentry⟩ := bind_eq_ok_iff.1 hentry
        obtain rfl := Except.ok.inj hentry
        obtain ⟨hcol, rfl⟩ := Json.integerText_eq_ok htext
        rw [List.map_cons, List.map_cons, List.map_cons, ih (List.pairwise_cons.1 hsorted).2]
        simp only [Json.wholeText?_repr hcol]
  refine List.Nodup.of_map (fun key : String => Json.wholeText? key.toList) ?_
  rw [hcolumns]
  refine List.Pairwise.map _ ?_ hsorted
  intro a b hlt heq
  have : a.1 = b.1 := Option.some.inj heq
  omega

end Styles

theorem frozenField?_ofInt
    {i : Int}
    (hi : 0 ≤ i)
    (default : Nat) :
    frozenField? default (some (Json.ofInt i)) = some i.toNat := by
  simp [frozenField?, Int.not_lt.2 hi]

/-- The fields of a stored grid and view. -/
def storedFields (g : Grid) (v : View) (styles : Json.Fields) : Json.Fields :=
  [("data", .array (g.paddedRows.map fun row => .array (row.map contentRecord))),
    ("frozenRows", Json.ofInt v.frozenRows), ("frozenColumns", Json.ofInt v.frozenColumns),
    ("columnMeta", .object styles)]

theorem record_eq_ok
    {g : Grid} {v : View} {value : Json}
    (h : record g v = .ok value) :
    (∃ count, g.columnCount.count = .ok count)
      ∧ ∃ styles, List.Forall₂ (fun entry field => View.styleField entry = .ok field) v.styles styles
          ∧ value = .object (storedFields g v styles) := by
  obtain ⟨rows, hrows, h⟩ := bind_eq_ok_iff.1 h
  obtain ⟨view, hview, h⟩ := bind_eq_ok_iff.1 h
  obtain rfl := Except.ok.inj h
  obtain ⟨_, hwidth, hrows⟩ := bind_eq_ok_iff.1 hrows
  obtain ⟨count, hcount, -⟩ := bind_eq_ok_iff.1 hwidth
  obtain rfl := Except.ok.inj hrows
  obtain ⟨styles, hstyles, hview⟩ := bind_eq_ok_iff.1 hview
  obtain rfl := Except.ok.inj hview
  exact ⟨⟨count, hcount⟩, styles, forall₂_of_mapM_eq_ok hstyles, rfl⟩

theorem hasDistinctKeys_storedFields
    {g : Grid} {v : View} {styles : Json.Fields}
    (hsorted : v.styles.IsSorted)
    (h : List.Forall₂ (fun entry field => View.styleField entry = .ok field) v.styles styles) :
    (Json.object (storedFields g v styles)).HasDistinctKeys := by
  refine hasDistinctKeys_object (by simp [storedFields]) ?_
  have hrows : (Json.array (g.paddedRows.map fun row =>
      Json.array (row.map contentRecord))).HasDistinctKeys := by
    refine hasDistinctKeys_array fun item hitem => ?_
    obtain ⟨row, -, rfl⟩ := List.mem_map.1 hitem
    refine hasDistinctKeys_array fun item hitem => ?_
    obtain ⟨cell, -, rfl⟩ := List.mem_map.1 hitem
    exact hasDistinctKeys_contentRecord cell
  have hstyles : (Json.object styles).HasDistinctKeys :=
    hasDistinctKeys_object (nodup_keys hsorted h) (hasDistinctKeys_styleFields h)
  intro field hfield
  simp only [storedFields, List.mem_cons, List.not_mem_nil, or_false] at hfield
  rcases hfield with rfl | rfl | rfl | rfl
  · exact hrows
  · trivial
  · trivial
  · exact hstyles

/-- Reading a stored document gives what was stored. -/
theorem parse_of_write
    {g : Grid} {v : View} {text : String}
    (hrows : 0 ≤ v.frozenRows)
    (hcolumns : 0 ≤ v.frozenColumns)
    (hsorted : v.styles.IsSorted)
    (h : write g v = .ok text) :
    parse text = .ok ⟨g.paddedRows, v.frozenRows.toNat, v.frozenColumns.toNat, v.styles⟩ := by
  obtain ⟨value, hvalue, h⟩ := bind_eq_ok_iff.1 h
  obtain ⟨printed, hprinted, h⟩ := bind_eq_ok_iff.1 h
  obtain rfl := Except.ok.inj h
  obtain ⟨-, styles, hstyles, rfl⟩ := record_eq_ok hvalue
  have hread := Json.parse_of_print (hasDistinctKeys_storedFields hsorted hstyles) hprinted "\n"
    (by simp [Json.IsGaps, Json.isGap])
  have hfields : ofFields? (storedFields g v styles)
      = some ⟨g.paddedRows, v.frozenRows.toNat, v.frozenColumns.toNat, v.styles⟩ := by
    have hdata : Json.getField? (storedFields g v styles) "data"
        = some (.array (g.paddedRows.map fun row => .array (row.map contentRecord))) := rfl
    have hfrozenRows : field? (storedFields g v styles) "frozenRows" "frozen_rows"
        = some (Json.ofInt v.frozenRows) := rfl
    have hfrozenColumns : field? (storedFields g v styles) "frozenColumns" "frozen_columns"
        = some (Json.ofInt v.frozenColumns) := rfl
    have hmeta : field? (storedFields g v styles) "columnMeta" "column_meta"
        = some (.object styles) := rfl
    simp only [ofFields?, hdata, hfrozenRows, hfrozenColumns, hmeta, Option.getD_some,
      rowsField?_array, frozenField?_ofInt hrows, frozenField?_ofInt hcolumns, stylesField?,
      mapM_styleEntry? hstyles, Option.map_some, ColumnStyles.ofEntries_of_isSorted hsorted]
    rfl
  rw [parse, hread]
  simp only [ofRecord, hfields]

end Lemmas

end Document
end Spreadsheet
