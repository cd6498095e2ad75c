import Spreadsheet.Proofs.Cell.Rendering
import Spreadsheet.Proofs.Grid.Contents
import Spreadsheet.Proofs.Grid.Export
import Spreadsheet.Proofs.Sheet.Storage

/-!
# Showing and exporting what was typed

On a sheet that began empty every content was typed, wherever it stands now and
whichever edits were taken back.  Only the formulas can then keep it from being
shown or exported, by computing an integer of too many digits.

Results: all contents of such a sheet were typed (`isTyped_run`), and it is shown
position by position and exported as a whole as far as its formulas allow
(`exists_display_iff`, `exists_exportDelimited_iff`).
-/

namespace Spreadsheet

/-- All contents of the grid and of its history were typed. -/
def Grid.IsTyped (g : Grid) : Prop :=
  g.AllContents fun content => ∀ c ∈ content, c.IsTyped

/-- What the formula at a position computes can be written out, if there is one. -/
def Sheet.ComputesText (s : Sheet) (today : Date) (col row : Int) : Prop :=
  ∀ c ∈ s.cellAt? col row, c.ComputesText s.grid.source today

section Lemmas

namespace Grid

variable {g : Grid} {today : Date}

theorem IsTyped.get?
    (h : g.IsTyped)
    (r : Reference) :
    ∀ c ∈ g.get? r, c.IsTyped :=
  AllContents.get? (by simp) h r

/-- The grid is exported if each of its positions is. -/
theorem exists_exportDelimited_iff
    (g : Grid) (today : Date) (delimiter : Char) :
    (∃ text, g.exportDelimited today (String.singleton delimiter) = .ok text)
      ↔ ∀ r, ∃ text, exportText g.source today (g.get? r) = .ok text := by
  constructor
  · rintro ⟨exported, h⟩ r
    have hdelimiter : (String.singleton delimiter).toList = [delimiter] := by simp
    unfold exportDelimited at h
    rw [hdelimiter] at h
    obtain ⟨records, hrecords, -⟩ := bind_eq_ok_iff.1 h
    cases hr : g.get? r with
    | none => exact ⟨"", rfl⟩
    | some cell =>
        obtain ⟨row, hrow, hcell⟩ := get?_eq_some_iff.1 hr
        have hrecord := exists_mapM_eq_ok_iff.1 ⟨records, hrecords⟩ row (List.mem_of_getElem? hrow)
        have hcol : r.col < exportWidth g.rows :=
          (isExtent_exportWidth g).within r (by simp [hr])
        have hposition := getElem?_cutTo row hcol
        rw [hcell] at hposition
        exact exists_mapM_eq_ok_iff.1 hrecord (some cell) (List.mem_of_getElem? hposition)
  · intro htexts
    obtain ⟨records, hwritten, -⟩ := exists_exportDelimited delimiter htexts
    exact ⟨_, hwritten⟩

end Grid

namespace Sheet

variable {settings : Settings} {s : Sheet} {today : Date}

theorem isTyped_of_create
    (h : create settings = .ok s) :
    s.grid.IsTyped := by
  obtain ⟨rows, -, h⟩ := bind_eq_ok_iff.1 h
  obtain ⟨_, -, h⟩ := bind_eq_ok_iff.1 h
  obtain ⟨columns, -, h⟩ := bind_eq_ok_iff.1 h
  obtain ⟨_, -, h⟩ := bind_eq_ok_iff.1 h
  obtain ⟨_, -, h⟩ := bind_eq_ok_iff.1 h
  obtain ⟨d, hd, h⟩ := bind_eq_ok_iff.1 h
  obtain ⟨_, _, _, _, -, -, -, -, hgrid, -⟩ := ofDocument_eq_ok h
  unfold Document.blank at hd
  split at hd
  · simp at hd
  · obtain rfl := Except.ok.inj hd
    have hrows := Document.rows_grid (by simp) hgrid
    constructor
    case cells =>
      intro row hrow cell hcell
      rw [hrows] at hrow
      obtain ⟨blank, hblank, rfl⟩ := List.mem_map.1 hrow
      rw [List.eq_of_mem_replicate hblank] at hcell
      obtain ⟨empty, hempty, rfl⟩ := List.mem_map.1 hcell
      rw [List.eq_of_mem_replicate hempty]
      simp [Cell.unlessBlank]
    case edits =>
      rw [Grid.history_ofRows hgrid]
      simp [History.empty]

/-- Whatever is done to a sheet, its contents were typed if they were before. -/
theorem isTyped_run
    (h : s.grid.IsTyped)
    (ops : List Operation) :
    (Operation.run s ops).grid.IsTyped :=
  Operation.grid_induction
    (fun _ _ h hchange => h.change (by simp) (fun _ _ => Cell.isTyped_of_ofInput?) hchange) ops s h

theorem isTyped_of_cellAt?
    (h : s.grid.IsTyped)
    (col row : Int) :
    ∀ c ∈ s.cellAt? col row, c.IsTyped := by
  intro c hc
  obtain ⟨r, -, hr⟩ := Option.bind_eq_some_iff.1 hc
  exact h.get? r c hr

/-- A position of a sheet that was typed is shown if its formula computes a text. -/
theorem exists_display_iff
    (h : s.grid.IsTyped)
    (today : Date) (col row : Int) :
    (∃ text, s.display today col row = .ok text) ↔ s.ComputesText today col row := by
  unfold display ComputesText
  cases hc : s.cellAt? col row with
  | none => simp
  | some c =>
      have htyped := isTyped_of_cellAt? h col row c hc
      simpa [Cell.displayAt] using htyped.exists_display_iff s.settings.currencySymbol

/-- A sheet that was typed is exported if all its formulas compute texts. -/
theorem exists_exportDelimited_iff
    (h : s.grid.IsTyped)
    (today : Date) (delimiter : Char) :
    (∃ exported, s.exportDelimited today (String.singleton delimiter) = .ok exported)
      ↔ ∀ col row, s.ComputesText today col row := by
  have hnonempty : (String.singleton delimiter).isEmpty = false := by simp
  have hgrid : (∃ exported, s.exportDelimited today (String.singleton delimiter) = .ok exported)
      ↔ ∃ text, s.grid.exportDelimited today (String.singleton delimiter) = .ok text := by
    unfold exportDelimited
    rw [hnonempty, exists_bind_eq_ok_iff]
    simp [pure, Except.pure]
  have hposition : ∀ r : Reference,
      (∃ text, Grid.exportText s.grid.source today (s.grid.get? r) = .ok text)
        ↔ s.ComputesText today r.col r.row := by
    intro r
    unfold ComputesText cellAt? Grid.getAt?
    rw [Reference.ofInts?_natCast, Option.bind_some]
    cases hc : s.grid.get? r with
    | none => simp
    | some c => simpa using (h.get? r c hc).exists_exportText_iff
  rw [hgrid, Grid.exists_exportDelimited_iff]
  constructor
  · intro hall col row c hc
    obtain ⟨r, hr, hc⟩ := Option.bind_eq_some_iff.1 hc
    obtain ⟨rfl, rfl⟩ := coe_of_ofInts? hr
    refine (hposition r).1 (hall r) c ?_
    rw [cellAt?, Grid.getAt?, hr]
    exact hc
  · exact fun hall r => (hposition r).2 (hall r.col r.row)

end Sheet

end Lemmas

end Spreadsheet
