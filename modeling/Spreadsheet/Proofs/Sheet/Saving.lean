import Spreadsheet.Proofs.Document.Writing
import Spreadsheet.Proofs.Grid.Contents
import Spreadsheet.Proofs.Grid.NumericOrder
import Spreadsheet.Proofs.Number.Finite

/-!
# Saving what was opened

The cells of a sheet are those of the document that it was opened from, and typed ones.  All
of them can be written out, and the typed ones are finite.  The numbers of the view can be
written out at first; later ones are asked for, or come about as columns move by one place.

Results: where a cell comes from (`exists_origin_run`), how far the numbers of a view grow
(`isWithin_run`), and what can keep an opened sheet from being saved
(`exists_write_run_iff`).
-/

namespace Spreadsheet

/-- No number of the view is beyond a bound. -/
structure View.IsWithin (n : Nat) (v : View) : Prop where
  frozenRows : v.frozenRows.natAbs ≤ n
  frozenColumns : v.frozenColumns.natAbs ≤ n
  columns : ∀ entry ∈ v.styles, entry.1.natAbs ≤ n
  widths : ∀ entry ∈ v.styles, ∀ w, entry.2.width = some w → w.natAbs ≤ n
  minWidth : v.minWidth.natAbs ≤ n

/-- The content stands in some rows, was typed, or is empty. -/
def Cell.HasOrigin (rows : List Row) (content : Option Cell) : Prop :=
  ∀ c ∈ content, (∃ row ∈ rows, some c ∈ row) ∨ ∃ raw, ofInput? raw = .ok (some c)

/-- No number that the operation puts into the view is beyond a bound. -/
def Operation.AsksWithin (n : Nat) : Operation → Prop
  | resizeColumn col width => col.natAbs ≤ n ∧ ∀ i, width.truncate = .ok i → i.natAbs ≤ n
  | setHidden col _ => col.natAbs ≤ n
  | setFrozenRows count | setFrozenColumns count => ∀ i, count.truncate = .ok i → i.natAbs ≤ n
  | _ => True

section Lemmas

namespace View

variable {n m : Nat} {v : View}

namespace IsWithin

theorem mono
    (h : v.IsWithin n)
    (hle : n ≤ m) :
    v.IsWithin m where
  frozenRows := h.frozenRows.trans hle
  frozenColumns := h.frozenColumns.trans hle
  columns := fun entry hentry => (h.columns entry hentry).trans hle
  widths := fun entry hentry w hw => (h.widths entry hentry w hw).trans hle
  minWidth := h.minWidth.trans hle

/-- Only the styles have changed, and they are within the bound. -/
theorem withStyles
    {styles : ColumnStyles}
    (h : v.IsWithin n)
    (hstyles : ∀ entry ∈ styles,
      entry.1.natAbs ≤ n ∧ ∀ w, entry.2.width = some w → w.natAbs ≤ n) :
    IsWithin n { v with styles := styles } where
  frozenRows := h.frozenRows
  frozenColumns := h.frozenColumns
  columns := fun entry hentry => (hstyles entry hentry).1
  widths := fun entry hentry => (hstyles entry hentry).2
  minWidth := h.minWidth

theorem width_style
    {col w : Int}
    (h : v.IsWithin n)
    (hw : (v.style col).width = some w) :
    w.natAbs ≤ n := by
  unfold View.style ColumnStyles.style? at hw
  cases hstyle : v.styles.lookup col with
  | none =>
      rw [hstyle] at hw
      cases hw
  | some style =>
      rw [hstyle] at hw
      obtain ⟨before, after, hstyles, -⟩ := List.lookup_eq_some_iff.1 hstyle
      exact h.widths (col, style) (by simp [hstyles]) w hw

theorem setStyle
    {col : Int} {style : ColumnStyle}
    (h : v.IsWithin n)
    (hcol : col.natAbs ≤ n)
    (hwidth : ∀ w, style.width = some w → w.natAbs ≤ n) :
    (v.setStyle col style).IsWithin n := by
  refine h.withStyles fun entry hentry => ?_
  rcases ColumnStyles.mem_insertStyle hentry with rfl | hentry
  · exact ⟨hcol, hwidth⟩
  · exact ⟨h.columns entry hentry, h.widths entry hentry⟩

theorem prune
    (h : v.IsWithin n)
    (col : Int) :
    (v.prune col).IsWithin n := by
  unfold View.prune
  split
  · refine h.withStyles fun entry hentry => ?_
    have hmem := List.mem_of_mem_filter hentry
    exact ⟨h.columns entry hmem, h.widths entry hmem⟩
  · exact h

/-- Columns move by no more than the number of columns that came in or went out. -/
theorem shiftColumns
    (h : v.IsWithin n)
    (index count : Int) :
    (v.shiftColumns index count).IsWithin (n + count.natAbs) := by
  refine (h.mono (Nat.le_add_right n _)).withStyles fun entry hentry => ?_
  obtain ⟨old, hold, hentry⟩ := List.mem_filterMap.1 hentry
  obtain ⟨col, hcol, rfl⟩ := Option.map_eq_some_iff.1 hentry
  have hwithin := h.columns old hold
  refine ⟨?_, fun w hw => (h.widths old hold w hw).trans (Nat.le_add_right n _)⟩
  unfold ColumnStyles.shifted? at hcol
  split at hcol
  · obtain rfl := Option.some.inj hcol
    exact hwithin.trans (Nat.le_add_right n _)
  · split at hcol
    · obtain rfl := Option.some.inj hcol
      exact (Int.natAbs_add_le _ _).trans (Nat.add_le_add_right hwithin _)
    · cases hcol

theorem natAbs_le_of_mem_numbers
    {i : Int}
    (h : v.IsWithin n)
    (hi : i ∈ v.numbers) :
    i.natAbs ≤ n := by
  rcases mem_numbers_iff.1 hi with rfl | rfl | ⟨entry, hentry, rfl | hw⟩
  · exact h.frozenRows
  · exact h.frozenColumns
  · exact h.columns entry hentry
  · exact h.widths entry hentry i hw

end IsWithin

theorem natAbs_frozenCount_le
    {count : Number} {i : Int}
    (hcount : ∀ i, count.truncate = .ok i → i.natAbs ≤ n)
    (h : frozenCount count = .ok i) :
    i.natAbs ≤ n := by
  obtain ⟨truncated, htruncate, h⟩ := bind_eq_ok_iff.1 h
  obtain rfl := Except.ok.inj h
  have := hcount truncated htruncate
  omega

/-- A width that is asked for is within the bound if it and the least width are. -/
theorem isWithin_resizeColumn
    {col given : Int} {width : Number} {v' : View}
    (hv : v.IsWithin n)
    (hcol : col.natAbs ≤ n)
    (hwidth : ∀ i, width.truncate = .ok i → i.natAbs ≤ n)
    (h : v.resizeColumn col width = .ok (given, v')) :
    v'.IsWithin n := by
  obtain ⟨asked, hasked, rfl, rfl⟩ := resizeColumn_eq_ok h
  refine hv.setStyle hcol fun w hw => ?_
  obtain rfl := Option.some.inj hw
  have hleast := hv.minWidth
  have hgiven := hwidth asked hasked
  omega

theorem isWithin_setHidden
    {col : Int} {hidden : Bool} {v' : View}
    (hv : v.IsWithin n)
    (hcol : col.natAbs ≤ n)
    (h : v.setHidden col hidden = .ok v') :
    v'.IsWithin n := by
  rw [setHidden_eq_ok h]
  refine (hv.setStyle hcol fun w hw => ?_).prune col
  have hstyle : (v.style col).width = some w := hw
  exact hv.width_style hstyle

theorem isWithin_setFrozenRows
    {count : Number} {v' : View}
    (hv : v.IsWithin n)
    (hcount : ∀ i, count.truncate = .ok i → i.natAbs ≤ n)
    (h : v.setFrozenRows count = .ok v') :
    v'.IsWithin n := by
  obtain ⟨frozen, hfrozen, h⟩ := bind_eq_ok_iff.1 h
  obtain rfl := Except.ok.inj h
  exact { hv with frozenRows := natAbs_frozenCount_le hcount hfrozen }

theorem isWithin_setFrozenColumns
    {count : Number} {v' : View}
    (hv : v.IsWithin n)
    (hcount : ∀ i, count.truncate = .ok i → i.natAbs ≤ n)
    (h : v.setFrozenColumns count = .ok v') :
    v'.IsWithin n := by
  obtain ⟨frozen, hfrozen, h⟩ := bind_eq_ok_iff.1 h
  obtain rfl := Except.ok.inj h
  exact { hv with frozenColumns := natAbs_frozenCount_le hcount hfrozen }

end View

theorem Restructuring.isWithin_view
    {n : Nat} {v : View}
    (op : Restructuring) (index : Int)
    (h : v.IsWithin n) :
    (op.view v index).IsWithin (n + 1) := by
  cases op with
  | insertRow | deleteRow => exact h.mono (Nat.le_succ n)
  | insertColumn => exact h.shiftColumns index 1
  | deleteColumn => exact h.shiftColumns index (-1)

theorem Sheet.view_of_restructure
    {s : Sheet} {op : Restructuring} {index : Int} {outcome : Outcome Bool}
    (h : s.restructure op index = .ok outcome) :
    outcome.sheet.view = s.view ∨ outcome.sheet.view = op.view s.view index := by
  obtain ⟨changed, -, h⟩ := bind_eq_ok_iff.1 h
  cases changed with
  | none =>
      obtain ⟨event, -, h⟩ := bind_eq_ok_iff.1 h
      obtain rfl := Except.ok.inj h
      exact .inl rfl
  | some grid =>
      obtain ⟨text, -, h⟩ := bind_eq_ok_iff.1 h
      obtain rfl := Except.ok.inj h
      exact .inr rfl

namespace Operation

variable {n : Nat} {s : Sheet} {op : Operation}

theorem AsksWithin.mono
    {m : Nat}
    (h : op.AsksWithin n)
    (hle : n ≤ m) :
    op.AsksWithin m := by
  cases op with
  | resizeColumn col width => exact ⟨h.1.trans hle, fun i hi => (h.2 i hi).trans hle⟩
  | setHidden col hidden => exact Nat.le_trans h hle
  | setFrozenRows count | setFrozenColumns count => exact fun i hi => (h i hi).trans hle
  | _ => trivial

/-- What is asked of a view keeps it within the bound. -/
theorem isWithin_of_answers
    {v v' : View}
    (hview : v.IsWithin n)
    (hasks : op.AsksWithin n)
    (h : v.Answers op v') :
    v'.IsWithin n := by
  cases h with
  | resize h => exact View.isWithin_resizeColumn hview hasks.1 hasks.2 h
  | hide h => exact View.isWithin_setHidden hview hasks h
  | freezeRows h => exact View.isWithin_setFrozenRows hview hasks h
  | freezeColumns h => exact View.isWithin_setFrozenColumns hview hasks h
  | _ => exact hview

/-- An operation takes the numbers of a view at most one beyond the bound of what is there
and what is asked. -/
theorem isWithin_after
    (hview : s.view.IsWithin n)
    (hasks : op.AsksWithin n) :
    (op.after s).view.IsWithin (n + 1) := by
  have hkept : s.view.IsWithin (n + 1) := hview.mono (Nat.le_succ n)
  cases hrun : op.perform s with
  | error fault =>
      rw [after_of_error hrun]
      exact hkept
  | ok outcome =>
      rw [after_of_ok hrun]
      by_cases hpresentation : op.IsPresentation
      · obtain ⟨_, _, hsheet, -, hanswers⟩ := answers_of_isPresentation hpresentation hrun
        rw [hsheet]
        exact (isWithin_of_answers hview hasks hanswers).mono (Nat.le_succ n)
      · by_cases hstructural : op.IsStructural
        · obtain ⟨change, index, hchange⟩ := hstructural.exists_restructure hrun
          rcases Sheet.view_of_restructure hchange with hsame | hmoved
          · rw [hsame]
            exact hkept
          · rw [hmoved]
            exact change.isWithin_view index hview
        · rw [sheet_of_perform hpresentation hstructural hrun]
          exact hkept

/-- The numbers of a view grow by at most one with each operation beyond what is asked. -/
theorem isWithin_run
    {ops : List Operation}
    (hview : s.view.IsWithin n)
    (hasks : ∀ op ∈ ops, op.AsksWithin n) :
    (run s ops).view.IsWithin (n + ops.length) := by
  induction ops generalizing s n with
  | nil => exact hview
  | cons op ops ih =>
      obtain ⟨hop, hops⟩ := List.forall_mem_cons.1 hasks
      -- Behind the first operation the bound is one more, for what is asked as well.
      rw [run, List.foldl_cons, List.length_cons, Nat.add_comm ops.length, ← Nat.add_assoc]
      exact ih (isWithin_after hview hop) fun other hother =>
        (hops other hother).mono (Nat.le_succ n)

end Operation

namespace Cell

theorem IsTyped.hasText
    {c : Cell}
    (h : c.IsTyped) :
    c.HasText := by
  cases h with
  | @number x hx =>
      rintro _ ⟨⟩
      exact hx
  | _ =>
      rintro _ ⟨⟩
      trivial

/-- A number that is typed is finite. -/
theorem isFiniteValue_of_ofInput?
    {raw : String} {c : Cell}
    (h : ofInput? raw = .ok (some c)) :
    IsFiniteValue c.value? := by
  obtain ⟨entry, hentry, h⟩ := bind_eq_ok_iff.1 h
  rw [value?_of_ofTyped? (Except.ok.inj h)]
  exact fun x hx => Entry.isFinite_of_ofText hentry hx

end Cell

namespace Sheet

variable {text : String} {d : Document} {settings : Settings} {s : Sheet}

/-- A cell of an opened sheet is one of the document, or was typed. -/
theorem exists_origin_run
    {ops : List Operation} {r : Reference} {c : Cell}
    (hsheet : ofDocument settings d = .ok s)
    (hget : (Operation.run s ops).grid.get? r = some c) :
    (∃ row ∈ d.rows, some c ∈ row) ∨ ∃ raw, Cell.ofInput? raw = .ok (some c) := by
  obtain ⟨_, _, _, _, -, -, -, -, hgrid, -⟩ := ofDocument_eq_ok hsheet
  have hnone : Cell.HasOrigin d.rows none := nofun
  have hopened : s.grid.AllContents (Cell.HasOrigin d.rows) := by
    constructor
    case cells =>
      rintro row hrow _ hcell c rfl
      obtain ⟨y, hy⟩ := List.getElem?_of_mem hrow
      obtain ⟨x, hx⟩ := List.getElem?_of_mem hcell
      have hget : s.grid.get? ⟨x, y⟩ = some c :=
        Grid.get?_eq_some_iff.2 ⟨row, hy, by rw [hx]; rfl⟩
      exact .inl (Grid.exists_of_get?_ofRows hgrid hget)
    case edits =>
      rw [Grid.history_ofRows hgrid]
      simp [History.empty]
  have hrun : (Operation.run s ops).grid.AllContents (Cell.HasOrigin d.rows) := by
    refine Operation.grid_induction (p := fun g => g.AllContents (Cell.HasOrigin d.rows))
      (fun g g' h hchange => ?_) ops s hopened
    refine h.change hnone (fun raw cell hcell c hc => ?_) hchange
    exact .inr ⟨raw, hc ▸ hcell⟩
  exact hrun.get? hnone r c hget

end Sheet

end Lemmas

namespace Sheet

/-- After any run the sheet of a document that was read is stored exactly if its columns can
be counted out, its cells hold finite numbers only, and the numbers of its view can be
written out.  A cell with any other number stands in the document.  The view can be written
out at first, and stays so while what stands in it and what is asked for has few enough
digits, with one more for each operation. -/
theorem exists_write_run_iff
    {text : String} {d : Document} {settings : Settings} {s : Sheet}
    (hparse : Document.parse text = .ok d)
    (hsheet : ofDocument settings d = .ok s)
    (ops : List Operation) :
    ((∃ stored, (Operation.run s ops).write = .ok stored)
        ↔ (∃ n, (Operation.run s ops).columnCount.count = .ok n)
          ∧ (Operation.run s ops).grid.HasFiniteNumbers
          ∧ ∀ i ∈ (Operation.run s ops).view.numbers, IsWritable i)
      ∧ (∀ r c, (Operation.run s ops).grid.get? r = some c → ¬ IsFiniteValue c.value? →
        ∃ row ∈ d.rows, some c ∈ row)
      ∧ (∀ i ∈ s.view.numbers, IsWritable i)
      ∧ ∀ n, s.view.IsWithin n → (∀ op ∈ ops, op.AsksWithin n) →
        IsWritable (n + ops.length : Nat) →
        ∀ i ∈ (Operation.run s ops).view.numbers, IsWritable i := by
  have horigin {r : Reference} {c : Cell} (hget : (Operation.run s ops).grid.get? r = some c) :=
    exists_origin_run hsheet hget
  -- A typed cell is finite and can be written out; one of the document only the latter.
  have htext : ∀ r c, (Operation.run s ops).grid.get? r = some c → c.HasText := by
    intro r c hget
    rcases horigin hget with ⟨row, hrow, hc⟩ | ⟨raw, hraw⟩
    · exact Document.hasText_of_parse hparse hrow hc
    · exact (Cell.isTyped_of_ofInput? hraw c rfl).hasText
  refine ⟨?_, ?_, ?_, ?_⟩
  · rw [write, Document.exists_write_iff]
    refine and_congr_right fun _ => and_congr_left fun _ => ?_
    constructor
    · exact fun h r c hc x hx => (h r c x hc hx).2
    · exact fun h r c x hc hx => ⟨htext r c hc _ hx, h r c hc x hx⟩
  · intro r c hget hodd
    rcases horigin hget with hrow | ⟨raw, hraw⟩
    · exact hrow
    · exact absurd (Cell.isFiniteValue_of_ofInput? hraw) hodd
  · obtain ⟨_, _, _, _, -, -, -, -, -, hview⟩ := ofDocument_eq_ok hsheet
    rw [hview]
    exact fun i hi => Document.isWritable_of_parse hparse hi
  · intro n hview hasks hwritable i hi
    exact Nat.lt_of_le_of_lt ((Operation.isWithin_run hview hasks).natAbs_le_of_mem_numbers hi)
      hwritable

/-- A document of the undefined number. -/
def undefinedDocument : String :=
  "\x7b\"data\": [[\x7b\"value\": NaN, \"type\": \"number\"\x7d]]\x7d"

/-- Once the undefined number is cleared away, the document can be stored. -/
theorem exists_write_run_cleared :
    ∃ d s, Document.parse undefinedDocument = .ok d ∧ ofDocument .initial d = .ok s
      ∧ (Operation.run s [.enter 0 0 ""]).grid.HasFiniteNumbers
      ∧ ∀ i ∈ s.view.numbers, IsWritable i := by
  have hsteps : (do
      let d ← Document.parse undefinedDocument
      let s ← ofDocument .initial d
      (Operation.run s [.enter 0 0 ""]).write).isOk = true := by
    decide +kernel
  obtain ⟨stored, hsteps⟩ := exists_eq_ok hsteps
  obtain ⟨d, hparse, hsteps⟩ := bind_eq_ok_iff.1 hsteps
  obtain ⟨s, hsheet, hstored⟩ := bind_eq_ok_iff.1 hsteps
  obtain ⟨hsaved, -, hopened, -⟩ := exists_write_run_iff hparse hsheet [.enter 0 0 ""]
  obtain ⟨-, hfinite, -⟩ := hsaved.1 ⟨stored, hstored⟩
  exact ⟨d, s, hparse, hsheet, hfinite, hopened⟩

/-- A document that holds the undefined number is read, and its sheet cannot be stored. -/
theorem write_undefinedDocument :
    ∃ d s, Document.parse undefinedDocument = .ok d ∧ ofDocument .initial d = .ok s
      ∧ s.write = .error .unrepresentable := by
  have hsteps : (do
      let d ← Document.parse undefinedDocument
      let s ← ofDocument .initial d
      return decide (s.write = .error .unrepresentable)) = Except.ok true := by
    decide +kernel
  obtain ⟨d, hparse, hsteps⟩ := bind_eq_ok_iff.1 hsteps
  obtain ⟨s, hsheet, hsteps⟩ := bind_eq_ok_iff.1 hsteps
  exact ⟨d, s, hparse, hsheet, of_decide_eq_true (Except.ok.inj hsteps)⟩

end Sheet

end Spreadsheet
