import Spreadsheet.Proofs.Grid.Alike
import Spreadsheet.Proofs.Sheet.Restructuring
import Spreadsheet.Session.Performing

/-!
# Sheets that differ in padding only

A sheet that was stored and opened again has its rows filled up.  What can be
done to a sheet that was not stored can be done to this one as well, and leaves
the two alike: they show and store the same.

Results: alike sheets store the same text (`Alike.write`), a text is typed into
both (`Covers.enter`), both are sorted (`Alike.sort`) and restructured
(`Covers.restructure`), and changes of the view are changes of both
(`Covers.view_change`).
-/

namespace Spreadsheet
namespace Sheet

/-- The sheets have the same settings, the same view, and grids alike. -/
structure Alike (s t : Sheet) : Prop where
  settings : t.settings = s.settings
  grid : s.grid.Alike t.grid
  view : t.view = s.view

/-- The sheets are alike, and the rows of the second are no shorter. -/
structure Covers (s t : Sheet) : Prop where
  settings : t.settings = s.settings
  grid : s.grid.Covers t.grid
  view : t.view = s.view

section Lemmas

variable {s t s' : Sheet}

theorem Alike.refl
    (s : Sheet) :
    s.Alike s :=
  ⟨rfl, .refl s.grid, rfl⟩

/-- Where the columns can be counted out, a change of structure that returns was
made if it is admitted, and else refused. -/
theorem restructure_eq_ok
    {op : Restructuring} {index : Int} {o : Outcome Bool}
    (hcount : ∃ n, s.columnCount.count = .ok n)
    (h : s.restructure op index = .ok o) :
    IsWritable index
      ∧ (op.Admits s.grid index ∧ o.result = true ∧ o.sheet = s.restructured op index
        ∨ ¬ op.Admits s.grid index ∧ o.result = false ∧ o.sheet = s) := by
  have hindex : IsWritable index := by
    obtain ⟨changed, -, h⟩ := bind_eq_ok_iff.1 h
    cases changed with
    | none =>
        obtain ⟨event, hevent, -⟩ := bind_eq_ok_iff.1 h
        obtain ⟨text, htext, -⟩ := bind_eq_ok_iff.1 hevent
        exact (Json.integerText_eq_ok htext).1
    | some g =>
        obtain ⟨text, htext, -⟩ := bind_eq_ok_iff.1 h
        exact (Json.integerText_eq_ok htext).1
  refine ⟨hindex, ?_⟩
  by_cases hadmits : op.Admits s.grid index
  · obtain ⟨events, hmade⟩ := restructure_of_admits hadmits (fun _ => hcount) hindex
    obtain rfl := Except.ok.inj (h.symm.trans hmade)
    exact .inl ⟨hadmits, rfl, rfl⟩
  · rcases refuses_of_not_admits hadmits with ⟨events, hrefused⟩ | ⟨hlong, -⟩
    · obtain rfl := Except.ok.inj (h.symm.trans hrefused)
      exact .inr ⟨hadmits, rfl, rfl⟩
    · exact absurd hindex hlong

theorem Covers.alike
    (h : s.Covers t) :
    s.Alike t :=
  ⟨h.settings, h.grid.toAlike, h.view⟩

namespace Alike

variable (h : s.Alike t)

include h

theorem rowCount :
    t.rowCount = s.rowCount :=
  h.grid.rowCount

theorem columnCount :
    t.columnCount = s.columnCount :=
  h.grid.columnCount

theorem cellAt? :
    t.cellAt? = s.cellAt? := by
  funext col row
  unfold Sheet.cellAt? Grid.getAt?
  cases Reference.ofInts? col row with
  | none => rfl
  | some r => exact h.grid.get? r

/-- Every position shows the same. -/
theorem entryAt
    (today : Date) (r : Reference) :
    Session.entryAt t today r = Session.entryAt s today r := by
  unfold Session.entryAt inputText display
  rw [h.cellAt?, h.grid.source, h.settings]

/-- Alike sheets are stored as the same text. -/
theorem write :
    t.write = s.write := by
  unfold Sheet.write Document.write Document.record Grid.fields
  rw [h.grid.checkWidth, h.grid.rows, h.view]

theorem sort
    {today : Date} {col : Int} {ascending : Bool} {o : Outcome Bool}
    (hsort : s.sort today col ascending = .ok o) :
    ∃ o', t.sort today col ascending = .ok o' ∧ o.sheet.Alike o'.sheet := by
  obtain ⟨changed, hgrid, hsort⟩ := bind_eq_ok_iff.1 hsort
  unfold Sheet.sort
  rw [h.view]
  cases changed with
  | none =>
      obtain ⟨event, hevent, hsort⟩ := bind_eq_ok_iff.1 hsort
      obtain rfl := Except.ok.inj hsort
      rw [bind_of_eq_ok (h.grid.sort_none hgrid)]
      exact ⟨_, bind_eq_ok_iff.2 ⟨event, hevent, rfl⟩, h⟩
  | some g =>
      obtain ⟨label, hlabel, hsort⟩ := bind_eq_ok_iff.1 hsort
      obtain rfl := Except.ok.inj hsort
      obtain ⟨g', hg', halike⟩ := h.grid.sort hgrid
      rw [bind_of_eq_ok hg']
      exact ⟨_, bind_eq_ok_iff.2 ⟨label, hlabel, rfl⟩, h.settings, halike, rfl⟩

end Alike

namespace Covers

variable (h : s.Covers t)

include h

/-- A text that can be typed into a sheet can be typed into one that covers it. -/
theorem enter
    {col row : Int} {raw : String} {o : Outcome (Option Cell)}
    (henter : s.enter col row raw = .ok o) :
    ∃ o', t.enter col row raw = .ok o' ∧ o.sheet.Covers o'.sheet := by
  obtain ⟨⟨cell, g⟩, hgrid, henter⟩ := bind_eq_ok_iff.1 henter
  obtain ⟨label, hlabel, henter⟩ := bind_eq_ok_iff.1 henter
  obtain rfl := Except.ok.inj henter
  obtain ⟨g', hg', hcovers⟩ := h.grid.enterAt hgrid
  unfold Sheet.enter
  rw [bind_of_eq_ok hg']
  exact ⟨_, bind_eq_ok_iff.2 ⟨label, hlabel, rfl⟩, h.settings, hcovers, h.view⟩

/-- A line that comes into a sheet or goes out of it does so in one that covers
it, unless it is a row that makes the sheet narrower. -/
theorem restructure
    {op : Restructuring} {index : Int} {o : Outcome Bool}
    (hrows : s.grid.rows ≠ [])
    (hcount : ∃ n, s.columnCount.count = .ok n)
    (hmade : s.restructure op index = .ok o)
    (hkept : op = .deleteRow → o.sheet.columnCount = s.columnCount) :
    ∃ o', t.restructure op index = .ok o' ∧ o'.result = o.result ∧ o.sheet.Alike o'.sheet := by
  have hcount' : ∃ n, t.columnCount.count = .ok n := by
    rw [h.alike.columnCount]
    exact hcount
  obtain ⟨hindex, ⟨hadmits, hresult, hsheet⟩ | ⟨hrefused, hresult, hsheet⟩⟩ :=
    restructure_eq_ok hcount hmade
  · obtain ⟨events, hmade'⟩ :=
      restructure_of_admits (h.grid.admits_iff.2 hadmits) (fun _ => hcount') hindex
    refine ⟨_, hmade', hresult.symm, ?_⟩
    rw [hsheet] at hkept ⊢
    refine ⟨h.settings, ?_, congrArg (op.view · index) h.view⟩
    refine h.grid.restructure hrows hadmits (fun _ => hcount) rfl rfl rfl rfl fun hop => ?_
    obtain ⟨n, hn⟩ := hcount
    have hwidth : s.columnCount = .int s.grid.width := Grid.columnCount_of_count hn
    have hwidth' : (s.restructured op index).columnCount
        = .int (s.restructured op index).grid.width := by
      refine Grid.columnCount_of_count (n := n) ?_
      rw [← hn, ← hkept hop]
      rfl
    rw [hkept hop, hwidth] at hwidth'
    exact (Int.ofNat.inj (Number.int.inj hwidth')).symm
  · rcases refuses_of_not_admits (mt h.grid.admits_iff.1 hrefused) with ⟨events, hmade'⟩ | ⟨hlong, -⟩
    · refine ⟨_, hmade', hresult.symm, ?_⟩
      rw [hsheet]
      exact h.alike
    · exact absurd hindex hlong

/-- A change of the view is one of the view of both sheets. -/
theorem view_change
    (set : View → Except Fault View)
    (hset : (do return { s with view := ← set s.view }) = Except.ok s') :
    ∃ t', (do return { t with view := ← set t.view }) = Except.ok t' ∧ s'.Covers t' := by
  obtain ⟨view, hview, hset⟩ := bind_eq_ok_iff.1 hset
  obtain rfl := Except.ok.inj hset
  rw [h.view, bind_of_eq_ok hview]
  exact ⟨_, rfl, h.settings, h.grid, rfl⟩

/-- A column gets the same width in both sheets. -/
theorem resizeColumn
    {col given : Int} {width : Number}
    (hresize : s.resizeColumn col width = .ok (given, s')) :
    ∃ t', t.resizeColumn col width = .ok (given, t') ∧ s'.Covers t' := by
  obtain ⟨⟨width, view⟩, hview, hresize⟩ := bind_eq_ok_iff.1 hresize
  obtain ⟨rfl, rfl⟩ := Prod.mk.inj (Except.ok.inj hresize)
  unfold Sheet.resizeColumn
  rw [h.view, bind_of_eq_ok hview]
  exact ⟨_, rfl, h.settings, h.grid, rfl⟩

end Covers

/-- What is opened from the stored text of a sheet covers it. -/
theorem covers_of_write
    {settings : Settings} {start : Sheet} {ops : List Operation} {text : String}
    (hstart : start.IsOpened settings)
    (h : (Operation.run start ops).write = .ok text) :
    ∃ d t, Document.parse text = .ok d ∧ ofDocument settings d = .ok t
      ∧ (Operation.run start ops).Covers t := by
  obtain ⟨d, t, hread, hopen, hsettings, hrows, hmin, hview⟩ := exists_opened_of_write hstart h
  exact ⟨d, t, hread, hopen, hsettings,
    Grid.covers_of_rows (isNormal_run hstart ops).rows hrows hmin, hview⟩

/-- The columns of a sheet that is stored can be counted out. -/
theorem exists_count_of_write
    {text : String}
    (h : s.write = .ok text) :
    ∃ n, s.columnCount.count = .ok n := by
  obtain ⟨value, hrecord, -⟩ := bind_eq_ok_iff.1 h
  exact (Document.record_eq_ok hrecord).1

end Lemmas

end Sheet
end Spreadsheet
