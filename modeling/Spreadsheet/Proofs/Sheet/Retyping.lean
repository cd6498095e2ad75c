import Spreadsheet.Proofs.Cell.Retyping
import Spreadsheet.Proofs.Formula.Locality
import Spreadsheet.Proofs.Grid.Entering
import Spreadsheet.Proofs.Sheet.Operation

/-!
# Committing what is offered for editing

After a commit a position holds the typed cell, or an equal one that stood there before.
Either offers a text that stores an equal cell again, so that committing this text finds the
cell in place and changes nothing.  There is always room for it, as the position is stored.

Result: committing the text that a position offers after a commit changes nothing, unless a
truth value stands for a number there (`enter_inputText`).
-/

namespace Spreadsheet

section Lemmas

theorem Cell.equal_comm
    (c d : Cell) :
    c.equal d = d.equal c := by
  have hvalues : equalValues c.value? d.value? = equalValues d.value? c.value? := by
    cases c.value? <;> cases d.value? <;> simp [equalValues, Scalar.equal_comm]
  simp only [equal, hvalues, Bool.beq_comm]

end Lemmas

namespace Grid

section Lemmas

variable {g : Grid} {r : Reference}

/-- A position that is stored has room for a cell. -/
theorem hasRoom_of_stores
    (h : g.Stores r) :
    g.HasRoom r := by
  obtain ⟨row, hrow, hcol⟩ := h
  constructor
  case rows =>
    intro hbelow
    have hlt : r.row < g.rowCount := (List.getElem?_eq_some_iff.1 hrow).1
    omega
  case positions =>
    have hlacking : g.lacking r = 0 := by
      rw [lacking, hrow, Option.map_some, Option.getD_some]
      omega
    rw [hlacking]
    decide

theorem put_of_equalContents
    {cell : Option Cell}
    (record : Bool)
    (hblank : cell ≠ some .blank)
    (h : Cell.equalContents (g.get? r) cell = true) :
    g.put r cell record = g := by
  simp [put, unlessBlank_of_ne hblank, h]

/-- Where a cell that retypes stands, its text finds it in place. -/
theorem exists_enterAt_inputText
    (record : Bool)
    (h : ∀ c, g.get? r = some c → c.Retypes) :
    ∃ text, Cell.inputTextAt (g.get? r) = .ok text
      ∧ ∃ cell, g.enterAt r.col r.row text record = .ok (cell, g) := by
  cases hget : g.get? r with
  | none =>
      have hinput : Cell.ofInput? "" = .ok none := by decide
      refine ⟨"", rfl, none, ?_⟩
      rw [enterAt_of_room record hinput (by simp),
        put_of_equalContents record (by simp) (by rw [hget]; rfl)]
  | some c =>
      obtain ⟨text, htext, c', hinput, hequal⟩ := h c hget
      refine ⟨text, htext, some c', ?_⟩
      have hroom : g.HasRoom r := hasRoom_of_stores (stores_of_get? (by simp [hget]))
      rw [enterAt_of_room record hinput fun _ => hroom,
        put_of_equalContents record (ofInput?_ne_blank hinput)]
      rw [hget, Cell.equalContents, Cell.equal_comm]
      exact hequal

/-- What stands at a position after a typed cell was put there. -/
theorem get?_put_cases
    {cell : Option Cell}
    (record : Bool)
    (hblank : cell ≠ some .blank) :
    (g.put r cell record).get? r = cell
      ∨ ((g.put r cell record).get? r = g.get? r ∧ Cell.equalContents (g.get? r) cell = true) := by
  rcases g.put_cases_of_record record hblank with ⟨hequal, hput⟩ | ⟨-, history, hput⟩
  · rw [hput]
    exact .inr ⟨rfl, hequal⟩
  · rw [hput]
    exact .inl (g.get?_write_self r cell)

/-- After a commit the cell at the position offers a text that stores an equal one. -/
theorem retypes_of_get?_put
    {raw : String} {typed : Option Cell} {c : Cell}
    (record : Bool)
    (hinput : Cell.ofInput? raw = .ok typed)
    (htruth : ∀ old new, g.get? r = some old → typed = some new → old.equal new = true →
      old.holdsTruth = new.holdsTruth)
    (h : (g.put r typed record).get? r = some c) :
    c.Retypes := by
  have hcases := get?_put_cases (g := g) (r := r) record (ofInput?_ne_blank hinput)
  rcases hcases with hput | ⟨hput, hequal⟩
  · rw [hput] at h
    subst h
    exact Cell.retypes_of_ofInput? hinput
  · rw [hput] at h
    rw [h] at hequal
    cases typed with
    | none => cases hequal
    | some new => exact Cell.retypes_of_equal hinput hequal (htruth c new h rfl hequal)

end Lemmas

end Grid

namespace Sheet

section Lemmas

variable {s : Sheet} {r : Reference} {label : String}

/-- Committing the text that a position offers changes nothing where the cell retypes. -/
theorem exists_enter_inputText
    (hlabel : r.label = .ok label)
    (h : ∀ c, s.grid.get? r = some c → c.Retypes) :
    ∃ text, s.inputText r.col r.row = .ok text
      ∧ ∃ outcome, s.enter r.col r.row text = .ok outcome ∧ outcome.sheet = s := by
  obtain ⟨text, htext, cell, henter⟩ := Grid.exists_enterAt_inputText true h
  have hinput : s.inputText r.col r.row = .ok text := by
    rw [inputText, cellAt?, Grid.getAt?, Reference.ofInts?_natCast]
    exact htext
  refine ⟨text, hinput, ?_⟩
  rw [enter, bind_of_eq_ok henter]
  exact ⟨_, bind_of_eq_ok hlabel _, rfl⟩

end Lemmas

/-- What is typed stores a cell that offers a text that stores an equal one.  Committing
the text that a position offers after any commit changes nothing, unless the position held
a cell equal to the typed one, and one of the two holds a truth value and the other a
number. -/
theorem enter_inputText
    {raw : String} {typed : Option Cell}
    (hinput : Cell.ofInput? raw = .ok typed) :
    (∃ text, Cell.inputTextAt typed = .ok text
        ∧ ∃ again, Cell.ofInput? text = .ok again ∧ Cell.equalContents again typed = true)
      ∧ ∀ (s : Sheet) (col row : Int) (outcome : Outcome (Option Cell)),
        s.enter col row raw = .ok outcome →
        (∀ old new, s.cellAt? col row = some old → typed = some new → old.equal new = true →
          old.holdsTruth = new.holdsTruth) →
        ∃ text, outcome.sheet.inputText col row = .ok text
          ∧ ∃ again, outcome.sheet.enter col row text = .ok again
            ∧ again.sheet = outcome.sheet := by
  constructor
  · cases typed with
    | none => exact ⟨"", rfl, none, by decide, rfl⟩
    | some c =>
        obtain ⟨text, htext, c', hagain, hequal⟩ := Cell.retypes_of_ofInput? hinput
        exact ⟨text, htext, some c', hagain, hequal⟩
  · intro s col row outcome henter htruth
    obtain ⟨r, hr, hresult, ⟨label, hlabel⟩, hsheet⟩ := enter_eq_ok henter
    obtain rfl : typed = outcome.result := Except.ok.inj (hinput.symm.trans hresult)
    obtain ⟨rfl, rfl⟩ := coe_of_ofInts? hr
    rw [cellAt?, Grid.getAt?, hr, Option.bind_some] at htruth
    refine exists_enter_inputText hlabel fun c hc => ?_
    rw [hsheet] at hc
    exact Grid.retypes_of_get?_put true hinput htruth hc

/-- A sheet of one row. -/
def ofRow (row : Row) : Sheet where
  settings := .initial
  grid := Formula.gridOf (.int 10) [row]
  view := ⟨[], 1, 0, View.usualWidth, View.usualMinWidth⟩
  selection := none

/-- A number with a point typed where the integer it equals stands, which stays there. -/
theorem enter_inputText_fiveRow :
    ∃ typed outcome text again, Cell.ofInput? "5.0" = .ok (some typed)
      ∧ (ofRow [Formula.numberCell 5]).enter 0 0 "5.0" = .ok outcome
      ∧ outcome.sheet.inputText 0 0 = .ok text
      ∧ outcome.sheet.enter 0 0 text = .ok again ∧ again.sheet = outcome.sheet := by
  have hsteps : (do
      let typed ← Cell.ofInput? "5.0"
      let _ ← (ofRow [Formula.numberCell 5]).enter 0 0 "5.0"
      return typed.map Cell.holdsTruth) = Except.ok (some false) := by
    decide +kernel
  obtain ⟨typed, hinput, hsteps⟩ := bind_eq_ok_iff.1 hsteps
  obtain ⟨outcome, henter, hsteps⟩ := bind_eq_ok_iff.1 hsteps
  obtain ⟨typed, rfl, htruth⟩ := Option.map_eq_some_iff.1 (Except.ok.inj hsteps)
  obtain ⟨text, htext, again, hagain, hsheet⟩ :=
    (enter_inputText hinput).2 _ 0 0 outcome henter fun old new hold hnew _ => by
      obtain rfl := Option.some.inj hnew
      obtain rfl := Option.some.inj hold
      exact htruth.symm
  exact ⟨typed, outcome, text, again, hinput, henter, htext, hagain, hsheet⟩

/-- A truth value that is stored as a number stays where the number it equals is typed, and
the text that it offers makes a checkbox of it. -/
theorem enter_inputText_truthRow :
    ∃ outcome again,
      (ofRow [some (.plain (.bool true) .number none)]).enter 0 0 "1" = .ok outcome
        ∧ outcome.sheet.grid.history.canUndo = false
        ∧ outcome.sheet.inputText 0 0 = .ok "[x]"
        ∧ outcome.sheet.enter 0 0 "[x]" = .ok again
        ∧ again.sheet.grid.history.canUndo = true := by
  have hsteps : (do
      let outcome ← (ofRow [some (.plain (.bool true) .number none)]).enter 0 0 "1"
      let again ← outcome.sheet.enter 0 0 "[x]"
      return !outcome.sheet.grid.history.canUndo
        && decide (outcome.sheet.inputText 0 0 = .ok "[x]")
        && again.sheet.grid.history.canUndo) = Except.ok true := by
    decide +kernel
  obtain ⟨outcome, henter, hsteps⟩ := bind_eq_ok_iff.1 hsteps
  obtain ⟨again, hagain, hsteps⟩ := bind_eq_ok_iff.1 hsteps
  have hsteps := Except.ok.inj hsteps
  rw [Bool.and_eq_true, Bool.and_eq_true, decide_eq_true_eq, Bool.not_eq_true'] at hsteps
  obtain ⟨⟨hbefore, htext⟩, hafter⟩ := hsteps
  exact ⟨outcome, again, henter, hbefore, htext, hagain, hafter⟩

end Sheet

end Spreadsheet
