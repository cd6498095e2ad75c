import Spreadsheet.Proofs.Cell.Recommitting
import Spreadsheet.Proofs.Document.RoundTrip
import Spreadsheet.Proofs.Grid.Alike
import Spreadsheet.Proofs.Sheet.Retyping

/-!
# Committing what a document offers

Every formula, number and amount of a document that was read offers a text for editing.
Committing this text finds an equal cell in place, if the cell has the form that typing
gives it.  Any other cell is replaced: the change is recorded, and another document is
stored.

Results: sheets that store the same value hold the same cells (`get?_of_record`), and what
committing the offered text does to the sheet of a document (`enter_inputText_ofDocument`).
-/

namespace Spreadsheet

section Lemmas

variable {r : Reference}

/-- The cell of a row that can be counted has a label. -/
theorem Reference.exists_label
    {rows : Nat}
    (hrow : r.row < rows)
    (hrows : IsWritable rows) :
    ∃ label, r.label = .ok label := by
  have hnumber : IsWritable ((r.row : Int) + 1) :=
    isWritable_of_le (by omega) (by omega) hrows
  exact exists_label_of_isWritable hnumber

theorem History.canUndo_push
    {ε : Type} {h : History ε}
    (hlimit : 0 < h.limit)
    (e : ε) :
    (h.push e).canUndo = true := by
  obtain ⟨limit, hlimit⟩ := Nat.exists_eq_succ_of_ne_zero hlimit.ne'
  simp [canUndo, push, hlimit]

namespace Grid

variable {g g' : Grid} {v v' : View} {c : Cell} {raw : String} {typed : Option Cell}

/-- Grids that are stored as the same value hold the same cells. -/
theorem get?_of_record
    {stored : Json}
    (h : Document.record g v = .ok stored)
    (h' : Document.record g' v' = .ok stored)
    (r : Reference) :
    g'.get? r = g.get? r := by
  obtain ⟨-, styles, -, hstored⟩ := Document.record_eq_ok h
  obtain ⟨-, styles', -, hstored'⟩ := Document.record_eq_ok h'
  have hrows : g'.paddedRows = g.paddedRows := by
    have hfields := (Json.object.inj (hstored'.symm.trans hstored))
    have hdata := (Prod.mk.inj (List.cons.inj hfields).1).2
    have hread := congrArg Document.rowsField? hdata
    rw [Document.rowsField?_array, Document.rowsField?_array] at hread
    exact Option.some.inj hread
  rw [get?_eq_paddedRows, get?_eq_paddedRows, hrows]

/-- Where a cell does not retype, its text is put in its place. -/
theorem put_of_not_retypes
    (hget : g.get? r = some c)
    (htext : c.inputText = .ok raw)
    (hinput : Cell.ofInput? raw = .ok typed)
    (hnot : ¬ c.Retypes) :
    (∃ edit, (g.put r typed true).history = g.history.push edit)
      ∧ (g.put r typed true).get? r ≠ g.get? r := by
  rcases g.put_cases r (ofInput?_ne_blank hinput) with ⟨hequal, -⟩ | ⟨-, hput⟩
  · cases typed with
    | none =>
        rw [hget] at hequal
        cases hequal
    | some c' =>
        rw [hget, Cell.equalContents, Cell.equal_comm] at hequal
        exact absurd ⟨raw, htext, c', hinput, hequal⟩ hnot
  · rw [hput]
    refine ⟨⟨_, rfl⟩, fun hsame => hnot ?_⟩
    have htyped : typed = some c :=
      ((g.get?_write_self r typed).symm.trans hsame).trans hget
    rw [htyped] at hinput
    exact Cell.retypes_same htext hinput

end Grid

theorem Cell.exists_inputText
    {c : Cell}
    (h : c.HasText) :
    ∃ text, c.inputText = .ok text := by
  cases c with
  | blank => exact ⟨_, rfl⟩
  | formula source hne format => exact ⟨_, rfl⟩
  | plain value kind format =>
      cases value with
      | bool checked => exact ⟨_, rfl⟩
      | text text => exact ⟨_, rfl⟩
      | number x =>
          obtain ⟨text, htext⟩ := x.exists_plain_iff.2 (h _ rfl)
          rw [inputText, bind_of_eq_ok htext]
          split <;> exact ⟨_, rfl⟩

end Lemmas

namespace Sheet

/-- The formulas, numbers and amounts of a document that was read all offer a text for
editing.  Committing it changes nothing if the cell has the form that typing gives it;
otherwise every commit that succeeds is recorded, and stores another document. -/
theorem enter_inputText_ofDocument
    {text : String} {d : Document} {settings : Settings} {s : Sheet} {r : Reference} {c : Cell}
    (hparse : Document.parse text = .ok d)
    (hsheet : ofDocument settings d = .ok s)
    (hget : s.grid.get? r = some c)
    (hcomputed : c.IsComputed)
    (hrows : IsWritable s.rowCount) :
    ∃ raw, s.inputText r.col r.row = .ok raw
      ∧ (c.IsRetypable → ∃ outcome, s.enter r.col r.row raw = .ok outcome
        ∧ outcome.sheet = s ∧ outcome.sheet.grid.history.canUndo = false)
      ∧ (¬ c.IsRetypable → ∀ outcome, s.enter r.col r.row raw = .ok outcome →
        outcome.sheet.grid.history.canUndo = true
          ∧ ∀ stored, s.record = .ok stored → outcome.sheet.record ≠ .ok stored) := by
  have htext := hasText_of_ofDocument hparse hsheet hget
  obtain ⟨minColumns, undoLimit, _, _, -, -, -, -, hgrid, -⟩ := ofDocument_eq_ok hsheet
  obtain ⟨filled, -, hlimit, -⟩ := Grid.ofRows_eq_ok hgrid
  obtain ⟨hpositive, hhistory⟩ := History.ofLimit_eq_ok hlimit
  obtain ⟨raw, hraw⟩ := Cell.exists_inputText htext
  have hinputText : s.inputText r.col r.row = .ok raw := by
    rw [inputText, cellAt?, Grid.getAt?, Reference.ofInts?_natCast]
    change Cell.inputTextAt (s.grid.get? r) = .ok raw
    rw [hget]
    exact hraw
  refine ⟨raw, hinputText, fun hretypable => ?_, fun hnot outcome houtcome => ?_⟩
  · obtain ⟨row, hrow, -⟩ := Grid.get?_eq_some_iff.1 hget
    obtain ⟨label, hlabel⟩ :=
      Reference.exists_label (List.getElem?_eq_some_iff.1 hrow).1 hrows
    have hretypes : ∀ c', s.grid.get? r = some c' → c'.Retypes := by
      intro c' hc'
      obtain rfl := Option.some.inj (hget.symm.trans hc')
      exact Cell.retypes_of_isRetypable hretypable htext
    obtain ⟨raw', hraw', outcome, houtcome, hsame⟩ := exists_enter_inputText hlabel hretypes
    obtain rfl := Except.ok.inj (hinputText.symm.trans hraw')
    refine ⟨outcome, houtcome, hsame, ?_⟩
    rw [hsame, hhistory]
    rfl
  · obtain ⟨r', hr', hinput, -, hafter⟩ := enter_eq_ok houtcome
    rw [Reference.ofInts?_natCast] at hr'
    obtain rfl := Option.some.inj hr'
    have hretypes : ¬ c.Retypes := fun h => hnot (Cell.isRetypable_of_retypes h hcomputed)
    obtain ⟨⟨edit, hedit⟩, hcell⟩ := Grid.put_of_not_retypes hget hraw hinput hretypes
    rw [hafter]
    constructor
    · rw [hedit]
      refine History.canUndo_push ?_ edit
      rw [hhistory]
      change 0 < undoLimit.toNat
      omega
    · intro stored hstored hsame
      exact hcell (Grid.get?_of_record hstored hsame r)

/-- A document of a number, and of an amount below zero. -/
def debtDocument : String :=
  "\x7b\"data\": [[\x7b\"value\": 5, \"type\": \"number\"\x7d, "
    ++ "\x7b\"value\": -5, \"type\": \"currency\", \"format\": \"currency\"\x7d]]\x7d"

/-- The number can be committed as it is offered. -/
theorem enter_inputText_debtNumber :
    ∃ d s raw outcome, Document.parse debtDocument = .ok d ∧ ofDocument .initial d = .ok s
      ∧ s.inputText 0 0 = .ok raw ∧ s.enter 0 0 raw = .ok outcome
      ∧ outcome.sheet = s ∧ outcome.sheet.grid.history.canUndo = false := by
  have hsteps : (do
      let d ← Document.parse debtDocument
      let s ← ofDocument .initial d
      return decide (s.grid.get? ⟨0, 0⟩ = some (.plain (.number (.int 5)) .number none))
        && decide (IsWritable s.rowCount)) = Except.ok true := by
    decide +kernel
  obtain ⟨d, hparse, hsteps⟩ := bind_eq_ok_iff.1 hsteps
  obtain ⟨s, hsheet, hsteps⟩ := bind_eq_ok_iff.1 hsteps
  have hsteps := Except.ok.inj hsteps
  rw [Bool.and_eq_true, decide_eq_true_eq, decide_eq_true_eq] at hsteps
  obtain ⟨hget, hrows⟩ := hsteps
  obtain ⟨raw, hraw, hretypable, -⟩ :=
    enter_inputText_ofDocument hparse hsheet hget (by decide) hrows
  obtain ⟨outcome, houtcome, hsame, hundo⟩ := hretypable (.number rfl)
  exact ⟨d, s, raw, outcome, hparse, hsheet, hraw, houtcome, hsame, hundo⟩

/-- The amount below zero becomes a text where it is committed as it is offered. -/
theorem enter_inputText_debtAmount :
    ∃ d s outcome, Document.parse debtDocument = .ok d ∧ ofDocument .initial d = .ok s
      ∧ (s.cellAt? 1 0).map Cell.typeName = some Kind.currency.name
      ∧ s.inputText 1 0 = .ok "$-5" ∧ s.enter 1 0 "$-5" = .ok outcome
      ∧ outcome.result = some (.plain (.text "$-5") .text none)
      ∧ outcome.sheet.grid.history.canUndo = true := by
  have hsteps : (do
      let d ← Document.parse debtDocument
      let s ← ofDocument .initial d
      let outcome ← s.enter 1 0 "$-5"
      return decide ((s.cellAt? 1 0).map Cell.typeName = some Kind.currency.name)
        && decide (s.inputText 1 0 = .ok "$-5")
        && decide (outcome.result = some (.plain (.text "$-5") .text none))
        && outcome.sheet.grid.history.canUndo) = Except.ok true := by
    decide +kernel
  obtain ⟨d, hparse, hsteps⟩ := bind_eq_ok_iff.1 hsteps
  obtain ⟨s, hsheet, hsteps⟩ := bind_eq_ok_iff.1 hsteps
  obtain ⟨outcome, houtcome, hsteps⟩ := bind_eq_ok_iff.1 hsteps
  have hsteps := Except.ok.inj hsteps
  simp only [Bool.and_eq_true, decide_eq_true_eq] at hsteps
  obtain ⟨⟨⟨htype, htext⟩, hresult⟩, hundo⟩ := hsteps
  exact ⟨d, s, outcome, hparse, hsheet, htype, htext, houtcome, hresult, hundo⟩

end Sheet

end Spreadsheet
