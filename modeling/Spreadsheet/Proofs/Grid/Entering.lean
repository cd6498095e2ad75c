import Spreadsheet.Proofs.Cell.Rendering
import Spreadsheet.Proofs.Grid.Replay

/-!
# What typing a text in does to a grid

A text that is typed in reaches one position.  A cell makes the grid grow just so
far that it holds the position; the empty text clears the position and moves no
edge, however far outside the grid it is.  It makes no difference that nothing is
written where the cell stands there already: such a position lies inside the grid.

To grow, the grid needs rows of full length, which takes columns that can be
counted out.

Result: what typing a text in does at every pair of coordinates
(`enterAt_commits`).
-/

namespace Spreadsheet
namespace Grid

/-- The rows up to a position can be filled up, and the positions that its row
lacks fit into memory. -/
structure HasRoom (g : Grid) (r : Reference) : Prop where
  rows : g.rowCount ≤ r.row → ∃ n, g.columnCount.count = .ok n
  positions : (g.lacking r : Int) < Number.memoryLimit

/-- In the second grid a content stands at two coordinates, every other position
is as it was, and the edges have moved only as far as a cell there needs. -/
structure Commits (g : Grid) (col row : Int) (cell : Option Cell) (g' : Grid) : Prop where
  written : Cell.equalContents (g'.getAt? col row) cell = true
  others : ∀ c i, (c, i) ≠ (col, row) → g'.getAt? c i = g.getAt? c i
  rowCount : (g'.rowCount : Int)
    = if cell.isSome then max (g.rowCount : Int) (row + 1) else g.rowCount
  columnCount : g'.columnCount
    = if cell.isSome then Number.greatest g.columnCount [.int (col + 1)] else g.columnCount

section Lemmas

variable {g : Grid} {r : Reference} {cell : Option Cell}

/-! The room for a cell. -/

theorem checkRoom_eq_ok_iff :
    g.checkRoom r = .ok () ↔ g.HasRoom r := by
  have hpositions : (∃ n, (Number.int (g.lacking r)).count = .ok n)
      ↔ (g.lacking r : Int) < Number.memoryLimit := by
    constructor
    · rintro ⟨n, hn⟩
      exact Number.lt_memoryLimit_of_count hn
    · intro hlt
      exact ⟨_, by rw [Number.count, if_pos hlt]⟩
  have hwidth : g.checkWidth = .ok () ↔ ∃ n, g.columnCount.count = .ok n := by
    unfold checkWidth
    rw [bind_eq_ok_iff]
    simp [pure, Except.pure]
  unfold checkRoom
  split
  · next hbelow =>
      rw [bind_eq_ok_iff]
      constructor
      · rintro ⟨⟨⟩, hrows, h⟩
        obtain ⟨n, hn, -⟩ := bind_eq_ok_iff.1 h
        exact ⟨fun _ => hwidth.1 hrows, hpositions.1 ⟨n, hn⟩⟩
      · intro h
        obtain ⟨n, hn⟩ := hpositions.2 h.positions
        exact ⟨(), hwidth.2 (h.rows hbelow), bind_of_eq_ok hn _⟩
  · next hinside =>
      constructor
      · intro h
        obtain ⟨n, hn, -⟩ := bind_eq_ok_iff.1 h
        exact ⟨fun hbelow => absurd hbelow hinside, hpositions.1 ⟨n, hn⟩⟩
      · intro h
        obtain ⟨n, hn⟩ := hpositions.2 h.positions
        exact bind_of_eq_ok hn _

variable {raw : String} (record : Bool) (hcell : Cell.ofInput? raw = .ok cell)

include hcell

/-- A typed cell is put at any position for which there is room; to clear one takes
none. -/
theorem enterAt_of_room
    (hroom : cell.isSome = true → g.HasRoom r) :
    g.enterAt r.col r.row raw record = .ok (cell, g.put r cell record) := by
  have hput : g.putAt r.col r.row cell record = .ok (g.put r cell record) := by
    unfold putAt
    simp only [Reference.ofInts?_natCast, unlessBlank_of_ne (ofInput?_ne_blank hcell)]
    split
    · next hsome => exact bind_of_eq_ok (checkRoom_eq_ok_iff.2 (hroom hsome)) _
    · rfl
  rw [enterAt, bind_of_eq_ok hcell, bind_of_eq_ok hput]
  rfl

theorem enterAt_of_no_room
    (hsome : cell.isSome = true)
    (hroom : ¬ g.HasRoom r) :
    ∃ fault, g.enterAt r.col r.row raw record = .error fault := by
  cases hcheck : g.checkRoom r with
  | ok _ => exact absurd (checkRoom_eq_ok_iff.1 hcheck) hroom
  | error fault =>
      refine ⟨fault, ?_⟩
      rw [enterAt, bind_of_eq_ok hcell, putAt, Reference.ofInts?_natCast]
      simp only [unlessBlank_of_ne (ofInput?_ne_blank hcell), hsome, hcheck, if_true]
      rfl

theorem enterAt_of_negative
    {col row : Int}
    (h : col < 0 ∨ row < 0) :
    g.enterAt col row raw record = .error (.reject (.negativeCoordinates col row)) := by
  have hnone : Reference.ofInts? col row = none := by
    rw [Reference.ofInts?, if_neg]
    omega
  rw [enterAt, bind_of_eq_ok hcell, putAt, hnone]
  rfl

omit hcell

/-! The edges. -/

/-- A write moves the right edge only as far as the position needs. -/
theorem columnCount_write
    (h : cell ≠ none ∨ g.get? r ≠ none) :
    (g.write r cell).columnCount = Number.greatest g.columnCount [.int (r.col + 1)] := by
  have hwidth := width_write h
  have hmin := minColumns_write g r cell
  cases hleast : g.minColumns with
  | int i =>
      rw [columnCount_of_int hleast, columnCount_of_int (hmin.trans hleast), hwidth,
        Number.greatest_eq, Number.less_int]
      simp only [decide_eq_true_eq]
      split <;> congr 1 <;> omega
  | float x =>
      rw [hleast] at hmin
      simp only [width, hleast, hmin] at hwidth
      rw [columnCount, columnCount, hmin, hleast, hwidth, Number.greatest_greatest]
      congr 3
      omega

/-- A position that is stored lies inside the right edge. -/
theorem columnCount_of_stores
    (h : g.Stores r) :
    Number.greatest g.columnCount [.int (r.col + 1)] = g.columnCount := by
  have hlt := lt_widestRow_of_stores h
  have hmax : max (widestRow g.rows : Int) (r.col + 1) = widestRow g.rows := by omega
  rw [columnCount, Number.greatest_greatest, hmax]

/-! The contents. -/

/-- Whether a change is recorded makes no difference to the cells. -/
theorem put_cases_of_record
    (hblank : cell ≠ some .blank) :
    (Cell.equalContents (g.get? r) cell = true ∧ g.put r cell record = g)
      ∨ (Cell.equalContents (g.get? r) cell = false
        ∧ ∃ history, g.put r cell record = { g.write r cell with history := history }) := by
  cases h : Cell.equalContents (g.get? r) cell with
  | true => exact .inl ⟨rfl, by simp [put, unlessBlank_of_ne hblank, h]⟩
  | false =>
      refine .inr ⟨rfl, ?_⟩
      cases record with
      | true => exact ⟨_, by simp [put, unlessBlank_of_ne hblank, h]; rfl⟩
      | false => exact ⟨(g.write r cell).history, by simp [put, unlessBlank_of_ne hblank, h]⟩

/-- A content is put at its position, and nothing else changes but the edges. -/
theorem commits_put
    (hcell : Cell.ofInput? raw = .ok cell) :
    g.Commits r.col r.row cell (g.put r cell record) := by
  rcases g.put_cases_of_record record (ofInput?_ne_blank hcell)
    with ⟨hequal, hput⟩ | ⟨hnew, history, hput⟩
  · rw [hput]
    have hstored : cell.isSome = true → g.Stores r := by
      intro hsome
      refine stores_of_get? fun hnone => ?_
      rw [hnone] at hequal
      cases cell with
      | none => cases hsome
      | some c => cases hequal
    constructor
    case written => rwa [getAt?, Reference.ofInts?_natCast]
    case others => exact fun _ _ _ => rfl
    case rowCount =>
      split
      · next hsome =>
          have := (hstored hsome).lt.1
          omega
      · rfl
    case columnCount =>
      split
      · next hsome => exact (columnCount_of_stores (hstored hsome)).symm
      · rfl
  · rw [hput]
    have hchanges : cell ≠ none ∨ g.get? r ≠ none := by
      by_contra hempty
      rw [not_or, not_not, not_not] at hempty
      simp [hempty.1, hempty.2, Cell.equalContents] at hnew
    have hstored : cell.isSome = false → g.Stores r := by
      intro hnone
      exact stores_of_get? (hchanges.resolve_left fun hne => hne (by simpa using hnone))
    constructor
    case written =>
      have hget : (g.write r cell).get? r = cell := g.get?_write_self r cell
      show Cell.equalContents ((Reference.ofInts? r.col r.row).bind (g.write r cell).get?) cell
        = true
      rw [Reference.ofInts?_natCast, Option.bind_some, hget]
      exact Cell.equalContents_of_ofInput? hcell
    case others =>
      intro c i hne
      show (Reference.ofInts? c i).bind (g.write r cell).get? = (Reference.ofInts? c i).bind g.get?
      cases hq : Reference.ofInts? c i with
      | none => rfl
      | some q =>
          refine g.get?_write_of_ne cell ?_
          rintro rfl
          obtain ⟨rfl, rfl⟩ := coe_of_ofInts? hq
          exact hne rfl
    case rowCount =>
      show ((g.write r cell).rowCount : Int) = _
      split
      · rw [rowCount_write hchanges]
        omega
      · next hnone =>
          rw [rowCount_eq_length_rowLengths, rowLengths_write (hstored (by simpa using hnone)),
            ← rowCount_eq_length_rowLengths]
    case columnCount =>
      show (g.write r cell).columnCount = _
      split
      · exact columnCount_write hchanges
      · next hnone =>
          exact columnCount_of_rowLengths (minColumns_write g r cell)
            (rowLengths_write (hstored (by simpa using hnone)) cell)

/-- What typing a text in does: at coordinates that are not negative it commits the
cell that the text stores, if there is room for one, and everywhere else it is
refused. -/
theorem enterAt_commits
    (g : Grid) (col row : Int) (record : Bool) {raw : String} {cell : Option Cell}
    (hcell : Cell.ofInput? raw = .ok cell) :
    (0 ≤ col → 0 ≤ row → (cell.isSome = true → g.HasRoom ⟨col.toNat, row.toNat⟩) →
        ∃ g', g.enterAt col row raw record = .ok (cell, g') ∧ g.Commits col row cell g')
      ∧ (0 ≤ col → 0 ≤ row → cell.isSome = true → ¬ g.HasRoom ⟨col.toNat, row.toNat⟩ →
        ∃ fault, g.enterAt col row raw record = .error fault)
      ∧ (col < 0 ∨ row < 0 →
        g.enterAt col row raw record = .error (.reject (.negativeCoordinates col row))) := by
  refine ⟨fun hcol hrow hroom => ?_, fun hcol hrow hsome hroom => ?_,
    enterAt_of_negative record hcell⟩
  · obtain ⟨x, rfl⟩ := Int.eq_ofNat_of_zero_le hcol
    obtain ⟨y, rfl⟩ := Int.eq_ofNat_of_zero_le hrow
    exact ⟨_, enterAt_of_room (r := ⟨x, y⟩) record hcell hroom,
      commits_put (r := ⟨x, y⟩) record hcell⟩
  · obtain ⟨x, rfl⟩ := Int.eq_ofNat_of_zero_le hcol
    obtain ⟨y, rfl⟩ := Int.eq_ofNat_of_zero_le hrow
    exact enterAt_of_no_room (r := ⟨x, y⟩) record hcell hsome hroom

/-- Three columns at least; the first row is longer and the second one shorter. -/
def unevenRows : Grid where
  minColumns := .int 3
  rows := [[none, none, none, some (.plain (.number (.int 5)) .number none)], [none]]
  history := .empty History.defaultLimit

/-- A cell put below the last row and beyond the right edge, one that stands there
already though it is typed differently, a position cleared far outside, and a
column that there is none of. -/
theorem enterAt_commits_unevenRows :
    ∃ seven five, Cell.ofInput? "7" = .ok (some seven) ∧ Cell.ofInput? "5.0" = .ok (some five)
      ∧ Cell.ofInput? " " = .ok none
      ∧ unevenRows.HasRoom ⟨6, 4⟩ ∧ unevenRows.HasRoom ⟨3, 0⟩
      ∧ (∃ g', unevenRows.enterAt 6 4 "7" true = .ok (some seven, g')
        ∧ unevenRows.Commits 6 4 (some seven) g')
      ∧ (∃ g', unevenRows.enterAt 3 0 "5.0" true = .ok (some five, g')
        ∧ unevenRows.Commits 3 0 (some five) g')
      ∧ (∃ g', unevenRows.enterAt 40 70 " " false = .ok (none, g')
        ∧ unevenRows.Commits 40 70 none g')
      ∧ unevenRows.enterAt (-1) 2 "7" true = .error (.reject (.negativeCoordinates (-1) 2)) := by
  have hentries : (do
      let seven ← Cell.ofInput? "7"
      let five ← Cell.ofInput? "5.0"
      let nothing ← Cell.ofInput? " "
      return seven.isSome && five.isSome && nothing.isNone) = Except.ok true := by
    decide +kernel
  obtain ⟨seven, hseven, hentries⟩ := bind_eq_ok_iff.1 hentries
  obtain ⟨five, hfive, hentries⟩ := bind_eq_ok_iff.1 hentries
  obtain ⟨nothing, hnothing, hentries⟩ := bind_eq_ok_iff.1 hentries
  have hentries := Except.ok.inj hentries
  rw [Bool.and_eq_true, Bool.and_eq_true, Option.isNone_iff_eq_none] at hentries
  obtain ⟨⟨hsomeSeven, hsomeFive⟩, rfl⟩ := hentries
  obtain ⟨seven, rfl⟩ := Option.isSome_iff_exists.1 hsomeSeven
  obtain ⟨five, rfl⟩ := Option.isSome_iff_exists.1 hsomeFive
  have hbeyond : unevenRows.HasRoom ⟨6, 4⟩ := ⟨fun _ => ⟨4, by decide +kernel⟩, by decide⟩
  have hinside : unevenRows.HasRoom ⟨3, 0⟩ := ⟨fun _ => ⟨4, by decide +kernel⟩, by decide⟩
  exact ⟨seven, five, hseven, hfive, hnothing, hbeyond, hinside,
    (enterAt_commits unevenRows 6 4 true hseven).1 (by decide) (by decide) fun _ => hbeyond,
    (enterAt_commits unevenRows 3 0 true hfive).1 (by decide) (by decide) fun _ => hinside,
    (enterAt_commits unevenRows 40 70 false hnothing).1 (by decide) (by decide)
      (fun h => nomatch h),
    (enterAt_commits unevenRows (-1) 2 true hseven).2.2 (by decide)⟩

/-- Where the columns cannot be counted out, no cell comes below the last row. -/
theorem enterAt_of_fractional_columns :
    ∃ g cell,
      ofRows [[none]] (.float (Numeral.toBinary64 ⟨false, ['1', '0'], some ['5'], none⟩))
          History.defaultLimit = .ok g
        ∧ Cell.ofInput? "x" = .ok (some cell)
        ∧ g.enterAt 0 1 "x" true = .error .wrongType := by
  have hsteps : (do
      let g ← ofRows [[none]] (.float (Numeral.toBinary64 ⟨false, ['1', '0'], some ['5'], none⟩))
        History.defaultLimit
      let cell ← Cell.ofInput? "x"
      return cell.isSome
        && decide ((g.enterAt 0 1 "x" true >>= fun _ => .ok ()) = .error .wrongType))
      = Except.ok true := by
    decide +kernel
  obtain ⟨g, hg, hsteps⟩ := bind_eq_ok_iff.1 hsteps
  obtain ⟨cell, hcell, hsteps⟩ := bind_eq_ok_iff.1 hsteps
  have hsteps := Except.ok.inj hsteps
  rw [Bool.and_eq_true, decide_eq_true_eq] at hsteps
  obtain ⟨hsome, hfails⟩ := hsteps
  obtain ⟨cell, rfl⟩ := Option.isSome_iff_exists.1 hsome
  refine ⟨g, cell, hg, hcell, ?_⟩
  cases henter : g.enterAt 0 1 "x" true with
  | ok outcome =>
      rw [henter] at hfails
      cases hfails
  | error fault =>
      rw [henter] at hfails
      exact congrArg Except.error (Except.error.inj hfails)

end Lemmas

end Grid
end Spreadsheet
