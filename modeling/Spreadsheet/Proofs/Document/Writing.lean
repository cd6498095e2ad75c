import Spreadsheet.Proofs.Document.Numbers
import Spreadsheet.Proofs.Json.Printing

/-!
# What can be stored

The rows of a grid are stored filled up, so its columns must be countable.  Then only a
number can keep it from being stored: one of a cell that is not finite, or an integer of too
many digits, in a cell or in the view.

Result: what keeps a grid and its view from being stored (`exists_write_iff`).
-/

namespace Spreadsheet

section Lemmas

variable {x : Number} {g : Grid} {v : View}

namespace Cell

theorem holds_record_iff
    {c : Cell} :
    Json.Holds x c.record ↔ c.value? = some (.number x) := by
  have hformat : ∀ format, ¬ Json.FieldsHold x (optionalField "format" format) := by
    rintro (_ | format) ⟨field, hfield, hx⟩
    · cases hfield
    · obtain rfl := List.mem_singleton.1 hfield
      exact Json.not_holds_text hx
  cases c with
  | blank => simp [record, Json.holds_object_iff, Json.FieldsHold, value?, Json.not_holds_text]
  | formula source h format =>
      simp [record, Json.holds_object_iff, Json.fieldsHold_cons, hformat, value?,
        Json.not_holds_text]
  | plain value kind format =>
      have hvalue : Json.Holds x (Json.ofScalar value) ↔ value = .number x := by
        cases value with
        | number y => rw [Json.ofScalar, Json.holds_number_iff, Scalar.number.injEq, eq_comm]
        | bool b => simp [Json.ofScalar, Json.not_holds_bool]
        | text text => simp [Json.ofScalar, Json.not_holds_text]
      simp [record, Json.holds_object_iff, Json.fieldsHold_cons, hformat, value?,
        Json.not_holds_text, hvalue]

end Cell

namespace Grid

/-- A cell stands in a stored row exactly if it stands somewhere on the grid. -/
theorem exists_mem_paddedRows_iff
    {c : Cell} :
    (∃ row ∈ g.paddedRows, some c ∈ row) ↔ ∃ r, g.get? r = some c := by
  constructor
  · rintro ⟨row, hrow, hc⟩
    obtain ⟨y, hy⟩ := List.getElem?_of_mem hrow
    obtain ⟨col, hcol⟩ := List.getElem?_of_mem hc
    refine ⟨⟨col, y⟩, ?_⟩
    rw [get?_eq_paddedRows, hy, Option.bind_some, hcol]
    rfl
  · rintro ⟨r, hr⟩
    rw [get?_eq_paddedRows] at hr
    obtain ⟨row, hrow, hc⟩ := Option.bind_eq_some_iff.1 (Option.join_eq_some_iff.1 hr)
    exact ⟨row, List.mem_of_getElem? hrow, List.mem_of_getElem? hc⟩

theorem holds_rows_iff :
    Json.Holds x (.array (g.paddedRows.map fun row => .array (row.map contentRecord)))
      ↔ ∃ r c, g.get? r = some c ∧ c.value? = some (.number x) := by
  have hcontent : ∀ content, Json.Holds x (contentRecord content)
      ↔ ∃ c, content = some c ∧ c.value? = some (.number x) := by
    rintro (_ | c)
    · simp [contentRecord, Json.not_holds_null]
    · simp [contentRecord, Cell.holds_record_iff]
  simp only [Json.holds_array_iff, List.mem_map, exists_exists_and_eq_and, hcontent]
  constructor
  · rintro ⟨row, hrow, _, hc, c, rfl, hx⟩
    obtain ⟨r, hr⟩ := exists_mem_paddedRows_iff.1 ⟨row, hrow, hc⟩
    exact ⟨r, c, hr, hx⟩
  · rintro ⟨r, c, hr, hx⟩
    obtain ⟨row, hrow, hc⟩ := exists_mem_paddedRows_iff.2 ⟨r, hr⟩
    exact ⟨row, hrow, _, hc, c, rfl, hx⟩

end Grid

namespace View

theorem exists_styleField_iff
    {entry : Int × ColumnStyle} :
    (∃ field, styleField entry = .ok field) ↔ IsWritable entry.1 := by
  rw [styleField, exists_bind_pure_eq_ok_iff, Json.exists_integerText_iff]

theorem holds_styleField_iff
    {entry : Int × ColumnStyle} {field : String × Json}
    (h : styleField entry = .ok field) :
    Json.Holds x field.2 ↔ ∃ w, entry.2.width = some w ∧ x = .int w := by
  obtain ⟨text, -, h⟩ := bind_eq_ok_iff.1 h
  obtain rfl := Except.ok.inj h
  simp only [Json.holds_object_iff, Json.fieldsHold_cons, Json.not_holds_bool]
  cases entry.2.width with
  | none => simp [Json.not_holds_null, Json.FieldsHold]
  | some w => simp [Json.ofInt, Json.holds_number_iff, Json.FieldsHold]

theorem holds_styles_iff
    {styles : ColumnStyles} {fields : Json.Fields}
    (h : List.Forall₂ (fun entry field => styleField entry = .ok field) styles fields) :
    Json.Holds x (.object fields)
      ↔ ∃ entry ∈ styles, ∃ w, entry.2.width = some w ∧ x = .int w := by
  induction h with
  | nil => exact iff_of_false Json.not_holds_nil.2 (by simp)
  | cons hentry hrest ih =>
      rw [Json.holds_cons_field_iff, holds_styleField_iff hentry, ih]
      simp only [List.mem_cons, exists_eq_or_imp]

end View

namespace Document

theorem exists_record_iff :
    (∃ value, record g v = .ok value)
      ↔ (∃ n, g.columnCount.count = .ok n) ∧ ∀ entry ∈ v.styles, IsWritable entry.1 := by
  have hgrid : (∃ fields, g.fields = .ok fields) ↔ ∃ n, g.columnCount.count = .ok n := by
    rw [Grid.fields, exists_bind_pure_eq_ok_iff, Grid.checkWidth, exists_bind_pure_eq_ok_iff]
  have hview : (∃ fields, v.fields = .ok fields) ↔ ∀ entry ∈ v.styles, IsWritable entry.1 := by
    rw [View.fields, exists_bind_pure_eq_ok_iff, exists_mapM_eq_ok_iff]
    exact forall₂_congr fun _ _ => View.exists_styleField_iff
  rw [record, exists_bind_eq_ok_iff]
  simp only [exists_bind_pure_eq_ok_iff, exists_and_right, hgrid, hview]

/-- The numbers of a stored grid and view are those of the cells, the frozen counts and the
widths. -/
theorem holds_record_iff
    {value : Json}
    (h : record g v = .ok value) :
    Json.Holds x value
      ↔ (∃ r c, g.get? r = some c ∧ c.value? = some (.number x))
        ∨ x = .int v.frozenRows ∨ x = .int v.frozenColumns
        ∨ ∃ entry ∈ v.styles, ∃ w, entry.2.width = some w ∧ x = .int w := by
  obtain ⟨-, styles, hstyles, rfl⟩ := record_eq_ok h
  simp only [storedFields, Json.holds_cons_field_iff, Grid.holds_rows_iff, Json.ofInt,
    Json.holds_number_iff, View.holds_styles_iff hstyles, Json.not_holds_nil.2, or_false]

/-- A grid and its view are stored exactly if the columns can be counted out, the numbers of
the cells are finite, and all numbers can be written out. -/
theorem exists_write_iff :
    (∃ text, write g v = .ok text)
      ↔ (∃ n, g.columnCount.count = .ok n)
        ∧ (∀ r c x, g.get? r = some c → c.value? = some (.number x) →
          x.HasText ∧ x.isFinite = true)
        ∧ ∀ i ∈ v.numbers, IsWritable i := by
  have hprinted : ∀ value, (∃ text, Json.print .document value = .ok text)
      ↔ ∀ x, Json.Holds x value → x.HasText ∧ x.isFinite = true := by
    intro value
    rw [Json.print, Json.exists_write_iff]
    exact forall₂_congr fun x _ => and_congr_right fun _ => imp_iff_right rfl
  rw [write, exists_bind_eq_ok_iff]
  simp only [exists_bind_pure_eq_ok_iff, hprinted]
  constructor
  · rintro ⟨value, hvalue, hnumbers⟩
    obtain ⟨hcount, hcolumns⟩ := exists_record_iff.1 ⟨value, hvalue⟩
    simp only [holds_record_iff hvalue] at hnumbers
    refine ⟨hcount, fun r c x hr hx => hnumbers x (.inl ⟨r, c, hr, hx⟩), fun i hi => ?_⟩
    rcases View.mem_numbers_iff.1 hi with rfl | rfl | ⟨entry, hentry, rfl | hw⟩
    · exact (hnumbers _ (.inr (.inl rfl))).1
    · exact (hnumbers _ (.inr (.inr (.inl rfl)))).1
    · exact hcolumns entry hentry
    · exact (hnumbers _ (.inr (.inr (.inr ⟨entry, hentry, i, hw, rfl⟩)))).1
  · rintro ⟨hcount, hcells, hview⟩
    simp only [View.mem_numbers_iff] at hview
    obtain ⟨value, hvalue⟩ := exists_record_iff.2
      ⟨hcount, fun entry hentry => hview _ (.inr (.inr ⟨entry, hentry, .inl rfl⟩))⟩
    refine ⟨value, hvalue, fun x hx => ?_⟩
    rcases (holds_record_iff hvalue).1 hx with ⟨r, c, hr, hc⟩ | rfl | rfl
      | ⟨entry, hentry, w, hw, rfl⟩
    · exact hcells r c x hr hc
    · exact ⟨hview _ (.inl rfl), rfl⟩
    · exact ⟨hview _ (.inr (.inl rfl)), rfl⟩
    · exact ⟨hview _ (.inr (.inr ⟨entry, hentry, .inr hw⟩)), rfl⟩

end Document

end Lemmas

end Spreadsheet
