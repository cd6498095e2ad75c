import Spreadsheet.Proofs.Formula.Arithmetic
import Spreadsheet.Proofs.Grid.Width
import Spreadsheet.Proofs.Number.Digits
import Spreadsheet.Proofs.Session.Failure
import Spreadsheet.Proofs.Sheet.Rendering

/-!
# Showing a sheet

A position is shown as a text, the sheet is exported as one, and a session gives
the cells of any part of it.  Each of these fails as a whole if one of its cells
has no text, and this happens to an integer of too many digits only.  None can
be typed, but a formula can compute one from shorter numbers.

Results: what a part of the sheet needs to be given (`exists_viewport_iff`), where
a sheet on which all was typed is shown, exported and given (`renders_run`), and a
product that keeps it from all three (`not_renders_longProduct`).
-/

namespace Spreadsheet

/-- The sheet is shown, exported and given in parts exactly where the formulas that
this concerns compute what can be written out.  As for the parts, this takes rows
and columns that fit into memory. -/
structure Sheet.Renders (s : Sheet) (today : Date) : Prop where
  display : ∀ col row,
    (∃ text, s.display today col row = .ok text) ↔ s.ComputesText today col row
  exported : ∀ delimiter : Char,
    (∃ exported, s.exportDelimited today (String.singleton delimiter) = .ok exported)
      ↔ ∀ col row, s.ComputesText today col row
  viewport : ∀ session : Session, session.sheet = s →
    s.HasRoom → (∃ n, s.columnCount.count = .ok n) →
    ∀ row col rows cols, 0 ≤ row → 0 ≤ col →
      ((∃ view, session.viewport today row col rows cols = .ok view)
        ↔ ∀ x y, col ≤ x → x < col + cols → row ≤ y → y < row + rows →
          s.ComputesText today x y)

section Lemmas

namespace Session

section Viewport

variable {s : Sheet} {session : Session} {today : Date} {row col rows cols : Int} {n : Nat}

/-- The positions of a part of the sheet that hold a cell. -/
def shown (s : Sheet) (row col rows cols : Int) (columns : Nat) : List Reference :=
  ((window row rows s.rowCount).flatMap fun (y : Nat) =>
    (window col cols columns).map fun (x : Nat) => Reference.mk x y).filter
      fun r => (s.grid.get? r).isSome

theorem mem_shown
    {r : Reference} :
    r ∈ shown s row col rows cols n
      ↔ (row ≤ r.row ∧ r.row < row + rows ∧ r.row < s.rowCount)
        ∧ (col ≤ r.col ∧ r.col < col + cols ∧ r.col < n) ∧ s.grid.get? r ≠ none := by
  unfold shown
  rw [List.mem_filter, List.mem_flatMap, Option.isSome_iff_ne_none]
  constructor
  · rintro ⟨⟨y, hy, hr⟩, hcell⟩
    obtain ⟨x, hx, rfl⟩ := List.mem_map.1 hr
    exact ⟨mem_window.1 hy, mem_window.1 hx, hcell⟩
  · rintro ⟨hy, hx, hcell⟩
    exact ⟨⟨r.row, mem_window.2 hy, List.mem_map.2 ⟨r.col, mem_window.2 hx, rfl⟩⟩, hcell⟩

/-- Columns that are asked for and stored come before the end. -/
theorem lt_columnEnd
    {i : Nat}
    (h : columnEnd s.columnCount col cols = .ok n)
    (hlimit : i < col + cols)
    (hwidth : i < s.grid.width) :
    i < n := by
  unfold columnEnd at h
  split at h
  · have hcolumns : s.columnCount = .int s.grid.width := Grid.columnCount_of_count h
    rw [hcolumns] at h
    simp only [Number.count] at h
    split at h
    · obtain rfl := Except.ok.inj h
      simpa using hwidth
    · split at h <;> simp at h
  · obtain rfl := Except.ok.inj h
    omega

theorem exists_columnEnd
    (hcount : ∃ n, s.columnCount.count = .ok n)
    (col cols : Int) :
    ∃ n, columnEnd s.columnCount col cols = .ok n := by
  unfold columnEnd
  split
  · exact hcount
  · exact ⟨_, rfl⟩

/-- A part of the sheet is given if its columns come to an end and all its cells
and the selection can be told. -/
theorem exists_viewport_iff_entries
    (hrow : 0 ≤ row)
    (hcol : 0 ≤ col) :
    (∃ view, session.viewport today row col rows cols = .ok view)
      ↔ ∃ n, columnEnd session.sheet.columnCount col cols = .ok n
        ∧ (∀ r ∈ shown session.sheet row col rows cols n,
          ∃ entry, entryAt session.sheet today r = .ok entry)
        ∧ ∃ selection, selectionEntry session.sheet = .ok selection := by
  have horigin : ¬ (row < 0 ∨ col < 0) := by omega
  unfold viewport
  rw [if_neg horigin, exists_bind_eq_ok_iff]
  refine exists_congr fun n => and_congr_right fun _ => ?_
  rw [exists_bind_eq_ok_iff, ← exists_mapM_eq_ok_iff]
  constructor
  · rintro ⟨cells, hcells, view, hview⟩
    obtain ⟨selection, hselection, -⟩ := bind_eq_ok_iff.1 hview
    exact ⟨⟨cells, hcells⟩, selection, hselection⟩
  · rintro ⟨⟨cells, hcells⟩, selection, hselection⟩
    exact ⟨cells, hcells, _, bind_of_eq_ok hselection _⟩

theorem exists_display_of_entryAt
    {r : Reference} {entry : CellEntry}
    (h : entryAt s today r = .ok entry) :
    ∃ text, s.display today r.col r.row = .ok text := by
  obtain ⟨_, -, h⟩ := bind_eq_ok_iff.1 h
  obtain ⟨_, -, h⟩ := bind_eq_ok_iff.1 h
  obtain ⟨text, htext, -⟩ := bind_eq_ok_iff.1 h
  exact ⟨text, htext⟩

/-- A position of a sheet that was typed is told of if it can be shown. -/
theorem exists_entryAt
    (h : s.grid.IsTyped)
    {r : Reference}
    (hlabel : Reference.HasLabel r.col r.row)
    (htext : s.ComputesText today r.col r.row) :
    ∃ entry, entryAt s today r = .ok entry := by
  obtain ⟨label, hlabel⟩ := hlabel.exists_labelOf
  obtain ⟨input, hinput⟩ : ∃ text, s.inputText r.col r.row = .ok text := by
    unfold Sheet.inputText
    cases hc : s.cellAt? r.col r.row with
    | none => exact ⟨"", rfl⟩
    | some c => exact (Sheet.isTyped_of_cellAt? h r.col r.row c hc).exists_inputText
  obtain ⟨text, htext⟩ := (Sheet.exists_display_iff h today r.col r.row).2 htext
  unfold entryAt
  rw [Reference.label, bind_of_eq_ok hlabel, bind_of_eq_ok hinput, bind_of_eq_ok htext]
  exact ⟨_, rfl⟩

/-- All that is asked for is shown in a part of the sheet that is given. -/
theorem exists_display_of_viewport
    {view : Viewport}
    (h : session.viewport today row col rows cols = .ok view)
    (hrow : 0 ≤ row)
    (hcol : 0 ≤ col)
    {x y : Int}
    (hx : col ≤ x ∧ x < col + cols)
    (hy : row ≤ y ∧ y < row + rows) :
    ∃ text, session.sheet.display today x y = .ok text := by
  obtain ⟨n, hend, hentries, -⟩ := (exists_viewport_iff_entries hrow hcol).1 ⟨view, h⟩
  cases hc : session.sheet.cellAt? x y with
  | none =>
      unfold Sheet.display
      rw [hc]
      exact ⟨"", rfl⟩
  | some c =>
      obtain ⟨r, hr, hc⟩ := Option.bind_eq_some_iff.1 hc
      obtain ⟨rfl, rfl⟩ := coe_of_ofInts? hr
      have hcell : session.sheet.grid.get? r ≠ none := Option.ne_none_iff_exists'.2 ⟨c, hc⟩
      obtain ⟨hlast, hwidth⟩ := (Grid.stores_of_get? hcell).lt
      have hmem : r ∈ shown session.sheet row col rows cols n :=
        mem_shown.2 ⟨⟨hy.1, hy.2, hlast⟩, ⟨hx.1, hx.2, lt_columnEnd hend hx.2 hwidth⟩, hcell⟩
      obtain ⟨entry, hentry⟩ := hentries r hmem
      exact exists_display_of_entryAt hentry

/-- Any part of a sheet that was typed is given if its formulas compute texts. -/
theorem exists_viewport_iff
    (h : session.sheet.grid.IsTyped)
    (hnamed : session.sheet.IsNamed)
    (hroom : session.sheet.HasRoom)
    (hcount : ∃ n, session.sheet.columnCount.count = .ok n)
    (hrow : 0 ≤ row)
    (hcol : 0 ≤ col) :
    (∃ view, session.viewport today row col rows cols = .ok view)
      ↔ ∀ x y, col ≤ x → x < col + cols → row ≤ y → y < row + rows →
        session.sheet.ComputesText today x y := by
  constructor
  · rintro ⟨view, hview⟩ x y hx hx' hy hy'
    exact (Sheet.exists_display_iff h today x y).1
      (exists_display_of_viewport hview hrow hcol ⟨hx, hx'⟩ ⟨hy, hy'⟩)
  · intro hall
    obtain ⟨n, hend⟩ := exists_columnEnd hcount col cols
    refine (exists_viewport_iff_entries hrow hcol).2
      ⟨n, hend, ?_, hnamed.exists_selectionEntry⟩
    intro r hr
    obtain ⟨⟨hy, hy', hlast⟩, ⟨hx, hx', -⟩, -⟩ := mem_shown.1 hr
    have hnumber : IsWritable ((r.row : Int) + 1) :=
      isWritable_of_le (by omega) (by omega) hroom
    exact exists_entryAt h ⟨Int.natCast_nonneg _, hnumber⟩ (hall r.col r.row hx hx' hy hy')

end Viewport

end Session

section Runs

/-- A sheet that began empty, and on which texts were typed, edits taken back and
made again, rows sorted, and rows and columns inserted and deleted, is rendered as
far as its formulas compute what can be written out. -/
theorem renders_run
    {settings : Settings} {start : Sheet}
    (hstart : Sheet.create settings = .ok start)
    {ops : List Operation}
    (hops : ∀ op ∈ ops, ¬ op.IsPresentation)
    (today : Date) :
    (Operation.run start ops).Renders today := by
  have htyped := Sheet.isTyped_run (Sheet.isTyped_of_create hstart) ops
  have hnamed : (Operation.run start ops).IsNamed := by
    intro t ht
    have hselected := Operation.selection_run hops start t ht
    rw [Sheet.selection_of_create hstart] at hselected
    cases hselected
  constructor
  case display => exact Sheet.exists_display_iff htyped today
  case exported => exact Sheet.exists_exportDelimited_iff htyped today
  case viewport =>
    rintro session hsheet hroom hcount row col rows cols hrow hcol
    rw [← hsheet] at htyped hnamed hroom hcount ⊢
    exact Session.exists_viewport_iff htyped hnamed hroom hcount hrow hcol

/-- A formula and what it refers to, moved down. -/
def halfOfSeven : List Operation :=
  [.enter 1 0 "=A1/2", .enter 0 0 "7", .undo, .redo, .restructure .insertRow 0]

theorem renders_run_halfOfSeven :
    ∃ start, Sheet.create .initial = .ok start
      ∧ (∀ op ∈ halfOfSeven, ¬ op.IsPresentation)
      ∧ (Operation.run start halfOfSeven).Renders ⟨2024, 3, 9, by decide⟩
      ∧ (Operation.run start halfOfSeven).HasRoom
      ∧ ∃ n, (Operation.run start halfOfSeven).columnCount.count = .ok n := by
  have hsteps : (do
      let start ← Sheet.create .initial
      let _ ← (Operation.run start halfOfSeven).columnCount.count
      return decide (IsWritable (Operation.run start halfOfSeven).rowCount)) = Except.ok true := by
    decide +kernel
  obtain ⟨start, hstart, hsteps⟩ := bind_eq_ok_iff.1 hsteps
  obtain ⟨n, hn, hsteps⟩ := bind_eq_ok_iff.1 hsteps
  have hops : ∀ op ∈ halfOfSeven, ¬ op.IsPresentation := by
    simp [halfOfSeven, Operation.IsPresentation]
  have hroom : IsWritable (Operation.run start halfOfSeven).rowCount :=
    of_decide_eq_true (Except.ok.inj hsteps)
  exact ⟨start, hstart, hops, renders_run hstart hops _, hroom, n, hn⟩

/-! A product that cannot be written. -/

/-- A one, and half as many zeros as a number may have digits. -/
def longFactor : List Char := '1' :: List.replicate (digitLimit / 2) '0'

/-- The square of a number that can be written. -/
def longProduct : Formula.Term := .product (.literal longFactor) (.literal longFactor)

/-- The formula of the square. -/
def longProductText : String := String.ofList ('=' :: (longFactor ++ '*' :: longFactor))

theorem isDigit_of_mem_longFactor :
    ∀ c ∈ longFactor, c.isDigit = true := by
  refine List.forall_mem_cons.2 ⟨by decide, fun c hc => ?_⟩
  rw [List.eq_of_mem_replicate hc]
  decide

theorem isWritten_longProduct :
    Formula.IsWritten Formula.IsLabelOf .sum longProduct (longFactor ++ '*' :: longFactor) := by
  have hfactor : Formula.IsWritten Formula.IsLabelOf .operand (.literal longFactor) longFactor :=
    .literal (by simp [longFactor]) isDigit_of_mem_longFactor
  exact .ofProduct (.product (.ofOperand hfactor) hfactor)

theorem not_isWritable_longProduct
    (cells : Reference → Int) :
    ¬ IsWritable (longProduct.value cells) := by
  have hfactor : Text.decimalNat longFactor = 10 ^ (digitLimit / 2) := by
    rw [longFactor, ← List.singleton_append, Text.decimalNat_append_zeros]
    simp [Text.decimalNat, Text.decimalValue?_ascii]
  have hhalves : digitLimit / 2 + digitLimit / 2 = digitLimit := by decide
  have habs : (longProduct.value cells).natAbs = 10 ^ digitLimit := by
    rw [longProduct, Formula.Term.value, Formula.Term.value, hfactor, Int.natAbs_mul,
      Int.natAbs_natCast, ← Nat.pow_add, hhalves]
  rw [IsWritable, habs]
  generalize digitLimit = limit
  exact Nat.lt_irrefl _

theorem not_hasText_of_equal
    {x : Number} {i : Int}
    (hx : x.equal (.int i) = true)
    (hi : ¬ IsWritable i) :
    ¬ x.HasText := by
  cases x with
  | int j =>
      obtain rfl := Number.eq_of_equal_int hx
      exact hi
  | float x => exact absurd (Number.isWritable_of_toInt? (Number.toInt?_of_equal hx)) hi

/-- The square is computed, and cannot be written. -/
theorem exists_evaluate_longProduct
    (g : Grid) (today : Date) :
    ∃ x : Number, g.source.evaluate today longProductText = some (.number x) ∧ ¬ x.HasText := by
  have hliterals : ∀ digits ∈ longProduct.literals, digits.length ≤ digitLimit := by
    intro digits hdigits
    have hlength : digits = longFactor := by
      simpa [longProduct, Formula.Term.literals] using hdigits
    rw [hlength, longFactor, List.length_cons, List.length_replicate]
    decide
  have hreads : Formula.ReadsIntegers (g.source.environment today (g.source.recompute today 0))
      (fun _ => 0) longProduct := by
    simp [Formula.ReadsIntegers, longProduct, Formula.Term.references]
  obtain ⟨x, hx, hequal⟩ :=
    Formula.evaluateText_of_isWritten isWritten_longProduct hliterals hreads
  have hfinishes : g.source.recomputeText today 0 longProductText.toList
      = some (.ok (some (.number x))) := by
    rw [longProductText, String.toList_ofList]
    exact hx
  exact ⟨x, Formula.Source.evaluate_of_finishes (fun _ hr => Grid.mem_formulas hr) hfinishes,
    not_hasText_of_equal hequal (not_isWritable_longProduct _)⟩

theorem ofInput?_longProductText :
    ∃ h, Cell.ofInput? longProductText = .ok (some (.formula longProductText h none)) := by
  refine Cell.ofInput?_of_equals fun c hc => ?_
  rw [List.append_cons, List.getLast?_append_of_ne_nil _ (by simp [longFactor])] at hc
  exact Text.not_isBlank_of_isDigit (isDigit_of_mem_longFactor c (List.mem_of_getLast? hc))

/-- The product is typed in without a fault, and then its cell cannot be shown, the
sheet not be exported, and no part of it be given that has the cell in it. -/
theorem not_renders_longProduct :
    ∃ start outcome, Sheet.create .initial = .ok start
      ∧ (Operation.enter 0 0 longProductText).perform start = .ok outcome
      ∧ ∀ today, (¬ ∃ text, outcome.sheet.display today 0 0 = .ok text)
        ∧ (∀ delimiter : Char, ¬ ∃ exported,
          outcome.sheet.exportDelimited today (String.singleton delimiter) = .ok exported)
        ∧ ∀ session : Session, session.sheet = outcome.sheet →
          ¬ ∃ view, session.viewport today 0 0 1 1 = .ok view := by
  have hsteps : (do
      let start ← Sheet.create .initial
      start.grid.checkRoom ⟨0, 0⟩
      return (start.grid.get? ⟨0, 0⟩).isNone) = Except.ok true := by
    decide +kernel
  obtain ⟨start, hstart, hsteps⟩ := bind_eq_ok_iff.1 hsteps
  obtain ⟨_, hroom, hsteps⟩ := bind_eq_ok_iff.1 hsteps
  have hnone : start.grid.get? ⟨0, 0⟩ = none :=
    Option.isNone_iff_eq_none.1 (Except.ok.inj hsteps)
  obtain ⟨hne, hcell⟩ := ofInput?_longProductText
  have hlabel : (Reference.mk 0 0).label = .ok "A1" := by
    decide +kernel
  obtain ⟨events, henter⟩ := Sheet.exists_enter_eq_ok hcell hlabel hroom
  have hput := Grid.get?_put_of_get?_eq_none hnone
    (show Cell.formula longProductText hne none ≠ .blank by simp)
  have htyped : (start.grid.put ⟨0, 0⟩ _ true).IsTyped :=
    Grid.AllContents.put (by simp) (Sheet.isTyped_of_create hstart) ⟨0, 0⟩ (by simp)
      (Cell.isTyped_of_ofInput? hcell)
  generalize start.grid.put ⟨0, 0⟩ _ true = g at henter hput htyped
  refine ⟨start, _, hstart, bind_eq_ok_iff.2 ⟨_, henter, rfl⟩, fun today => ?_⟩
  have hfails : ¬ Sheet.ComputesText { start with grid := g } today 0 0 := by
    intro htext
    obtain ⟨x, hx, hlong⟩ := exists_evaluate_longProduct g today
    exact hlong (htext _ hput longProductText rfl _ hx)
  have hdisplay := mt (Sheet.exists_display_iff htyped today 0 0).1 hfails
  refine ⟨hdisplay, ?_, ?_⟩
  · intro delimiter hexported
    exact hfails ((Sheet.exists_exportDelimited_iff htyped today delimiter).1 hexported 0 0)
  · rintro session hsheet ⟨view, hview⟩
    have horigin : (0 : Int) ≤ 0 ∧ (0 : Int) < 0 + 1 := by omega
    have hshown := Session.exists_display_of_viewport hview le_rfl le_rfl horigin horigin
    rw [hsheet] at hshown
    exact hdisplay hshown

end Runs

end Lemmas

end Spreadsheet
