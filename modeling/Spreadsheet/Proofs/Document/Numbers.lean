import Spreadsheet.Document.Reader
import Spreadsheet.Proofs.Grid.Export
import Spreadsheet.Proofs.Json.Holding
import Spreadsheet.Proofs.Sheet.Storage

/-!
# The numbers of a document

The number that a cell of a document holds is the value of a field of the structured value
that was read, so it can be written out again.  The frozen counts and the styles may also
come from digits in a text, of which no more are read than can be written.

Results: every cell of the sheet of a document that was read can be written out
(`hasText_of_ofDocument`), and so can the numbers of its view (`isWritable_of_parse`).
-/

namespace Spreadsheet

/-- The value of the cell can be written out. -/
def Cell.HasText (c : Cell) : Prop := ∀ value ∈ c.value?, value.HasText

/-- The numbers that store a view: its frozen counts, and the columns and the widths of
its styles. -/
def View.numbers (v : View) : List Int :=
  v.frozenRows :: v.frozenColumns
    :: v.styles.flatMap fun entry => entry.1 :: entry.2.width.toList

/-- Every number of the value can be written out. -/
def Json.HasTexts (value : Json) : Prop := ∀ x, Json.Holds x value → x.HasText

section Lemmas

theorem View.mem_numbers_iff
    {v : View} {i : Int} :
    i ∈ v.numbers ↔ i = v.frozenRows ∨ i = v.frozenColumns
      ∨ ∃ entry ∈ v.styles, i = entry.1 ∨ entry.2.width = some i := by
  simp only [numbers, List.mem_cons, List.mem_flatMap, Option.mem_toList]

theorem exists_of_mem_mapM
    {α β : Type} {read : α → Option β} {xs : List α} {ys : List β} {y : β}
    (h : xs.mapM read = some ys)
    (hy : y ∈ ys) :
    ∃ x ∈ xs, read x = some y := by
  induction xs generalizing ys with
  | nil =>
      obtain rfl := Option.some.inj h
      cases hy
  | cons x xs ih =>
      rw [List.mapM_cons] at h
      obtain ⟨first, hfirst, h⟩ := Option.bind_eq_some_iff.1 h
      obtain ⟨rest, hrest, h⟩ := Option.bind_eq_some_iff.1 h
      obtain rfl := Option.some.inj h
      rcases List.mem_cons.1 hy with rfl | hy
      · exact ⟨x, List.mem_cons_self, hfirst⟩
      · obtain ⟨found, hfound, hread⟩ := ih hrest hy
        exact ⟨found, List.mem_cons_of_mem _ hfound, hread⟩

namespace Json

variable {x : Number}

theorem holds_of_getField?
    {fields : Fields} {key : String} {value : Json}
    (h : getField? fields key = some value)
    (hx : Holds x value) :
    Holds x (.object fields) := by
  obtain ⟨before, after, rfl, -⟩ := List.lookup_eq_some_iff.1 h
  have hfield : (key, value) ∈ before ++ (key, value) :: after := by simp
  exact .field hfield hx

theorem HasTexts.getField?
    {fields : Fields} {key : String} {value : Json}
    (h : (object fields).HasTexts)
    (hvalue : Json.getField? fields key = some value) :
    value.HasTexts :=
  fun x hx => h x (holds_of_getField? hvalue hx)

/-- The digits in a text are no more than can be read. -/
theorem isWritable_of_wholeText?
    {s : List Char} {i : Int}
    (h : wholeText? s = some i) :
    IsWritable i := by
  have hnatural : ∀ {digits : List Char} {j : Int},
      (plainNatural? digits >>= fun n => pure (n : Int)) = some j → IsWritable j := by
    intro digits j hj
    obtain ⟨n, hn, hj⟩ := Option.bind_eq_some_iff.1 hj
    obtain rfl := Option.some.inj hj
    obtain ⟨⟨-, -, -, hlength⟩, hn⟩ := Option.ite_none_right_eq_some.1 hn
    rw [← Option.some.inj hn]
    exact isWritable_of_lt_pow digits.length hlength (Text.decimalNat_lt digits)
  obtain ⟨trimmed, -, h⟩ := Option.bind_eq_some_iff.1 h
  obtain ⟨unmarked, -, h⟩ := Option.bind_eq_some_iff.1 h
  unfold plainInteger? at h
  split at h
  · obtain ⟨j, hj, rfl⟩ := Option.map_eq_some_iff.1 h
    rw [IsWritable, Int.natAbs_neg]
    exact hnatural hj
  · obtain ⟨j, hj, rfl⟩ := Option.map_eq_some_iff.1 h
    exact hnatural hj

/-- A whole number in a value can be written out if the numbers of the value can. -/
theorem isWritable_of_wholeNumber?
    {value : Json} {i : Int}
    (h : wholeNumber? value = some i)
    (hvalue : value.HasTexts) :
    IsWritable i := by
  unfold wholeNumber? at h
  split at h
  · obtain rfl := Option.some.inj h
    exact isWritable_of_lt_pow 1 (by decide) (by split <;> decide)
  · obtain rfl := Option.some.inj h
    exact hvalue _ .number
  · split at h
    · next j hj =>
        obtain ⟨-, h⟩ := Option.ite_none_right_eq_some.1 h
        rw [← Option.some.inj h]
        exact Number.isWritable_of_toInt? hj
    · cases h
  · exact isWritable_of_wholeText? h
  · cases h

end Json

namespace Cell

variable {c : Cell} {x : Number}

theorem getField?_of_ofValueField?
    {value type format : Option Json}
    (h : ofValueField? value type format = some c)
    (hx : c.value? = some (.number x)) :
    value = some (.number x) := by
  unfold ofValueField? at h
  split at h
  · obtain rfl := Option.some.inj h
    cases hx
  · obtain rfl := Option.some.inj h
    cases hx
  · next value hnull =>
      obtain ⟨scalar, hscalar, h⟩ := Option.bind_eq_some_iff.1 h
      obtain ⟨kind, -, h⟩ := Option.bind_eq_some_iff.1 h
      obtain ⟨f, -, h⟩ := Option.bind_eq_some_iff.1 h
      obtain rfl := Option.some.inj h
      obtain rfl : scalar = .number x := Option.some.inj hx
      cases value <;> simp_all [scalarValue?]

/-- The number of a cell is the value that its fields give. -/
theorem getField?_of_ofFields?
    {fields : Json.Fields}
    (h : ofFields? fields = some c)
    (hx : c.value? = some (.number x)) :
    Json.getField? fields "value" = some (.number x) := by
  unfold ofFields? at h
  simp only at h
  split at h
  · split at h
    · split at h
      · split at h
        · exact getField?_of_ofValueField? h hx
        · obtain ⟨f, -, h⟩ := Option.bind_eq_some_iff.1 h
          obtain rfl := Option.some.inj h
          cases hx
      · exact getField?_of_ofValueField? h hx
    · exact getField?_of_ofValueField? h hx
  · exact getField?_of_ofValueField? h hx

theorem holds_of_ofRecord?
    {record : Json}
    (h : ofRecord? record = some c)
    (hx : c.value? = some (.number x)) :
    Json.Holds x record := by
  cases record with
  | object fields => exact Json.holds_of_getField? (getField?_of_ofFields? h hx) .number
  | _ => cases h

end Cell

namespace Document

variable {d : Document} {c : Cell} {x : Number}

theorem exists_of_items?
    {α : Type} {read : Json → Option α} {value : Json} {xs : List α} {y : α}
    (h : items? read value = some xs)
    (hy : y ∈ xs) :
    ∃ item, read item = some y ∧ ∀ x, Json.Holds x item → Json.Holds x value := by
  unfold items? at h
  split at h
  · obtain ⟨item, hitem, hread⟩ := exists_of_mem_mapM h hy
    exact ⟨item, hread, fun _ hx => .item hitem hx⟩
  · cases h

/-- The number of a cell stands in the value that the rows were read from. -/
theorem holds_of_rowsField?
    {value : Json} {rows : List Row} {row : Row}
    (h : rowsField? value = some rows)
    (hrow : row ∈ rows)
    (hc : some c ∈ row)
    (hx : c.value? = some (.number x)) :
    Json.Holds x value := by
  obtain ⟨item, hitem, hrows⟩ := exists_of_items? h hrow
  obtain ⟨content, hcontent, hcells⟩ := exists_of_items? hitem hc
  refine hrows x (hcells x ?_)
  unfold contentField? at hcontent
  split at hcontent
  · cases hcontent
  · obtain ⟨found, hrecord, hfound⟩ := Option.map_eq_some_iff.1 hcontent
    obtain rfl := Option.some.inj hfound
    exact Cell.holds_of_ofRecord? hrecord hx

/-- Every cell of a document that is read can be written out. -/
theorem hasText_of_parse
    {text : String} {row : Row}
    (h : parse text = .ok d)
    (hrow : row ∈ d.rows)
    (hc : some c ∈ row) :
    c.HasText := by
  obtain ⟨fields, hvalue, hfields⟩ := parse_eq_ok h
  obtain ⟨hrows, -, -, -⟩ := ofFields?_eq_some hfields
  intro scalar hscalar
  cases scalar with
  | number x =>
      have hx := holds_of_rowsField? hrows hrow hc hscalar
      cases hdata : Json.getField? fields "data" with
      | none =>
          rw [hdata] at hx
          cases hx
      | some data =>
          rw [hdata] at hx
          exact Json.hasText_of_holds hvalue (Json.holds_of_getField? hdata hx)
  | _ => trivial

/-! The frozen counts, and the columns and the widths of the styles. -/

theorem isWritable_of_frozenField?
    {default count : Nat} {value : Option Json}
    (h : frozenField? default value = some count)
    (hdefault : IsWritable default)
    (hvalue : ∀ v ∈ value, v.HasTexts) :
    IsWritable count := by
  cases value with
  | none =>
      obtain rfl := Option.some.inj h
      exact hdefault
  | some value =>
      obtain ⟨i, hi, h⟩ := Option.bind_eq_some_iff.1 h
      split at h
      · cases h
      · obtain rfl := Option.some.inj h
        rw [Int.toNat_of_nonneg (by omega)]
        exact Json.isWritable_of_wholeNumber? hi (hvalue _ rfl)

theorem isWritable_of_widthField?
    {w : Int} {value : Option Json}
    (h : widthField? value = some (some w))
    (hvalue : ∀ v ∈ value, v.HasTexts) :
    IsWritable w := by
  unfold widthField? at h
  split at h
  · cases h
  · cases h
  · obtain ⟨i, hi, h⟩ := Option.map_eq_some_iff.1 h
    obtain rfl := Option.some.inj h
    exact Json.isWritable_of_wholeNumber? hi (hvalue _ rfl)

theorem isWritable_of_styleEntry?
    {field : String × Json} {entry : Int × ColumnStyle}
    (h : styleEntry? field = some entry)
    (hfield : field.2.HasTexts) :
    IsWritable entry.1 ∧ ∀ w, entry.2.width = some w → IsWritable w := by
  obtain ⟨col, hcol, h⟩ := Option.bind_eq_some_iff.1 h
  obtain ⟨style, hstyle, h⟩ := Option.bind_eq_some_iff.1 h
  obtain rfl := Option.some.inj h
  refine ⟨Json.isWritable_of_wholeText? hcol, fun w hw => ?_⟩
  unfold styleField? at hstyle
  split at hstyle
  · next fields hfields =>
      obtain ⟨width, hwidth, hstyle⟩ := Option.bind_eq_some_iff.1 hstyle
      obtain ⟨hidden, -, hstyle⟩ := Option.bind_eq_some_iff.1 hstyle
      obtain rfl := Option.some.inj hstyle
      obtain rfl : width = some w := hw
      rw [hfields] at hfield
      exact isWritable_of_widthField? hwidth fun v hv => hfield.getField? hv
  · cases hstyle

theorem isWritable_of_stylesField?
    {value : Option Json} {styles : ColumnStyles} {entry : Int × ColumnStyle}
    (h : stylesField? value = some styles)
    (hvalue : ∀ v ∈ value, v.HasTexts)
    (hentry : entry ∈ styles) :
    IsWritable entry.1 ∧ ∀ w, entry.2.width = some w → IsWritable w := by
  unfold stylesField? at h
  split at h
  · obtain rfl := Option.some.inj h
    cases hentry
  · next fields =>
      obtain ⟨entries, hentries, rfl⟩ := Option.map_eq_some_iff.1 h
      obtain ⟨field, hfield, hread⟩ := exists_of_mem_mapM hentries (ColumnStyles.mem_ofEntries hentry)
      exact isWritable_of_styleEntry? hread fun x hx => hvalue _ rfl x (.field hfield hx)
  · cases h

theorem hasTexts_of_field?
    {fields : Json.Fields} {name other : String} {value : Json}
    (h : field? fields name other = some value)
    (hfields : (Json.object fields).HasTexts) :
    value.HasTexts := by
  rcases Option.or_eq_some_iff.1 h with h | ⟨-, h⟩
  · exact hfields.getField? h
  · exact hfields.getField? h

/-- Every number that the view of a document stores can be written out. -/
theorem isWritable_of_parse
    {text : String} {defaultWidth minWidth i : Int}
    (h : parse text = .ok d)
    (hi : i ∈ (d.view defaultWidth minWidth).numbers) :
    IsWritable i := by
  obtain ⟨fields, hvalue, hfields⟩ := parse_eq_ok h
  obtain ⟨-, hrows, hcolumns, hstyles⟩ := ofFields?_eq_some hfields
  have htexts : (Json.object fields).HasTexts := fun _ hx => Json.hasText_of_holds hvalue hx
  rcases View.mem_numbers_iff.1 hi with rfl | rfl | ⟨entry, hentry, hi⟩
  · exact isWritable_of_frozenField? hrows (isWritable_of_lt_pow 1 (by decide) (by decide))
      fun _ hv => hasTexts_of_field? hv htexts
  · exact isWritable_of_frozenField? hcolumns (isWritable_of_lt_pow 1 (by decide) (by decide))
      fun _ hv => hasTexts_of_field? hv htexts
  · obtain ⟨hcol, hwidth⟩ :=
      isWritable_of_stylesField? hstyles (fun _ hv => hasTexts_of_field? hv htexts) hentry
    rcases hi with rfl | hi
    · exact hcol
    · exact hwidth i hi

end Document

namespace Grid

variable {rows : List Row} {minColumns : Number} {undoLimit : Int} {g : Grid} {r : Reference}
  {c : Cell}

/-- A grid made of rows holds their cells. -/
theorem exists_of_get?_ofRows
    (h : ofRows rows minColumns undoLimit = .ok g)
    (hget : g.get? r = some c) :
    ∃ row ∈ rows, some c ∈ row := by
  obtain ⟨filled, hfilled, -, rfl⟩ := ofRows_eq_ok h
  obtain ⟨row, hrow, hcell⟩ := get?_eq_some_iff.1 hget
  have hrow := List.mem_of_getElem? hrow
  have hcell := List.mem_of_getElem? (Option.join_eq_some_iff.1 hcell)
  unfold someRows at hfilled
  split at hfilled
  · obtain ⟨width, -, hfilled⟩ := bind_eq_ok_iff.1 hfilled
    obtain rfl := Except.ok.inj hfilled
    rw [List.mem_singleton.1 hrow] at hcell
    cases List.eq_of_mem_replicate hcell
  · obtain rfl := Except.ok.inj hfilled
    obtain ⟨old, hold, rfl⟩ := List.mem_map.1 hrow
    obtain ⟨cell, hmem, hcell⟩ := List.mem_map.1 hcell
    refine ⟨old, hold, ?_⟩
    unfold Cell.unlessBlank at hcell
    split at hcell
    · cases hcell
    · rwa [hcell] at hmem

end Grid

/-- Every cell of the sheet of a document that was read can be written out. -/
theorem Sheet.hasText_of_ofDocument
    {text : String} {d : Document} {settings : Settings} {s : Sheet} {r : Reference} {c : Cell}
    (hparse : Document.parse text = .ok d)
    (hsheet : ofDocument settings d = .ok s)
    (hget : s.grid.get? r = some c) :
    c.HasText := by
  obtain ⟨_, _, _, _, -, -, -, -, hgrid, -⟩ := ofDocument_eq_ok hsheet
  obtain ⟨row, hrow, hc⟩ := Grid.exists_of_get?_ofRows hgrid hget
  exact Document.hasText_of_parse hparse hrow hc

end Lemmas

end Spreadsheet
