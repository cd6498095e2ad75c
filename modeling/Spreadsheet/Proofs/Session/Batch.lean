import Spreadsheet.Proofs.Formula.Locality
import Spreadsheet.Proofs.Grid.Entering
import Spreadsheet.Proofs.Session.Carrying
import Spreadsheet.Proofs.Session.Failure

/-!
# What several edits are reported to do

Text typed into several cells is reported cell by cell.  An entry is made as soon as its own
edit is, so it shows the sheet that the edits up to there leave, not the one that all of them
do.  What it shows depends on its own cell and on those that its formula reaches; as long as
no later edit is made at one of these, the entry is what the position shows afterwards.

Results: typing goes through the edits in order and makes one entry or one refusal for each
(`reports_of_update`); what is shown of a position depends on few cells (`entryAt_congr`); and
what each entry tells of the sheet that is left (`tells_of_updated`).
-/

namespace Spreadsheet

/-- None of the edits is made at the position. -/
def Reference.IsSparedBy (r : Reference) (edits : List CellEdit) : Prop :=
  ∀ edit ∈ edits, edit.place ≠ .ok (some r)

namespace Sheet

/-- Edits typed into a sheet one after the other, with the labels of those that name no
position, and with what is shown of the position of each other one once it is made. -/
inductive Reports (today : Date) :
    Sheet → List CellEdit → List String → List CellEntry → Sheet → Prop
  | nil
      {s : Sheet} :
      Reports today s [] [] [] s
  | refused
      {s s' : Sheet} {edit : CellEdit} {edits : List CellEdit} {label : String} {fault : Fault}
      {labels : List String} {cells : List CellEntry}
      (hlabel : edit.label = .ok label)
      (hposition : position label = .error fault)
      (h : Reports today s edits labels cells s') :
      Reports today s (edit :: edits) (label :: labels) cells s'
  | typed
      {s s' : Sheet} {edit : CellEdit} {edits : List CellEdit} {label : String} {r : Reference}
      {o : Outcome (Option Cell)} {entry : CellEntry} {labels : List String}
      {cells : List CellEntry}
      (hlabel : edit.label = .ok label)
      (hposition : position label = .ok r)
      (hmake : Session.makeEdit s r edit = .ok o)
      (hentry : Session.entryAt o.sheet today r = .ok entry)
      (h : Reports today o.sheet edits labels cells s') :
      Reports today s (edit :: edits) labels (entry :: cells) s'

/-- The positions that what is shown of a position depends on. -/
inductive DependsOn (s : Sheet) (r : Reference) : Reference → Prop
  | self :
      DependsOn s r r
  | reached
      {c : Cell} {text : String} {q : Reference}
      (hcell : s.grid.get? r = some c)
      (htext : c.source? = some text)
      (hq : Formula.Reaches s.grid.source text.toList q) :
      DependsOn s r q

end Sheet

namespace Session

/-- What an entry, made when some sheet was reached, tells of the session that later edits
leave. -/
structure Tells (m : Moment) (s' : Session) (u : Sheet) (later : List CellEdit) (r : Reference)
    (entry : CellEntry) : Prop where
  shown : entryAt u m.today r = .ok entry
  kept {label : String} {after : CellEntry} {t : Session} :
    r.IsSparedBy later → position label = .ok r →
      perform m (.cell label) s' = (.ok (.cell after), t) →
        after.input = entry.input ∧ after.type = entry.type
  same {label : String} {columns : Int} :
    u.columnCount = .int columns → (∀ q, u.DependsOn r q → q.IsSparedBy later) →
      position label = .ok r → perform m (.cell label) s' = (.ok (.cell entry), s')

section Lemmas

variable {s t : Sheet} {today : Date} {r q : Reference}

/-! What is shown of a position. -/

theorem cellAt?_of_reference
    (s : Sheet) (r : Reference) :
    s.cellAt? r.col r.row = s.grid.get? r := by
  rw [Sheet.cellAt?, Grid.getAt?, Reference.ofInts?_natCast]
  rfl

/-- What is shown of a position is the same in a sheet with the same cells where it depends
on them. -/
theorem entryAt_congr
    {columns columns' : Int}
    (hsettings : t.settings = s.settings)
    (hcolumns : s.columnCount = .int columns)
    (hcolumns' : t.columnCount = .int columns')
    (hcells : ∀ q, s.DependsOn r q → t.grid.get? q = s.grid.get? q) :
    entryAt t today r = entryAt s today r := by
  have hcell : t.cellAt? r.col r.row = s.cellAt? r.col r.row := by
    rw [cellAt?_of_reference, cellAt?_of_reference, hcells r .self]
  have hdisplay : t.display today r.col r.row = s.display today r.col r.row := by
    rw [Sheet.display, Sheet.display, hsettings, hcell, cellAt?_of_reference]
    cases hc : s.grid.get? r with
    | none => rfl
    | some c =>
        cases htext : c.source? with
        | none => simp only [Cell.displayAt, Cell.display, htext]
        | some text =>
            have hvalue := Formula.evaluate_eq_of_reaches hcolumns hcolumns'
              (fun q hq => (hcells q (.reached hc htext hq)).symm) today
            simp only [Cell.displayAt, Cell.display, htext, hvalue]
  simp only [entryAt, Sheet.inputText, hcell, hdisplay]

/-- Of a position, the text for editing and the type go by its cell alone. -/
theorem input_and_type_of_entryAt
    {entry after : CellEntry}
    (hcell : t.grid.get? r = s.grid.get? r)
    (hentry : entryAt s today r = .ok entry)
    (hafter : entryAt t today r = .ok after) :
    after.input = entry.input ∧ after.type = entry.type := by
  have hcell : t.cellAt? r.col r.row = s.cellAt? r.col r.row := by
    rw [cellAt?_of_reference, cellAt?_of_reference, hcell]
  obtain ⟨_, -, hentry⟩ := bind_eq_ok_iff.1 hentry
  obtain ⟨input, hinput, hentry⟩ := bind_eq_ok_iff.1 hentry
  obtain ⟨_, -, hentry⟩ := bind_eq_ok_iff.1 hentry
  obtain rfl := Except.ok.inj hentry
  obtain ⟨_, -, hafter⟩ := bind_eq_ok_iff.1 hafter
  obtain ⟨input', hinput', hafter⟩ := bind_eq_ok_iff.1 hafter
  obtain ⟨_, -, hafter⟩ := bind_eq_ok_iff.1 hafter
  obtain rfl := Except.ok.inj hafter
  rw [Sheet.inputText, hcell] at hinput'
  exact ⟨Except.ok.inj (hinput'.symm.trans hinput), congrArg (Option.map Cell.typeName) hcell⟩

/-- The entry of one cell is what is shown of the position that its label names. -/
theorem perform_cell_eq_ok_iff
    {m : Moment} {label : String} {entry : CellEntry} {s' t' : Session}
    (hposition : position label = .ok r) :
    perform m (.cell label) s' = (.ok (.cell entry), t')
      ↔ entryAt s'.sheet m.today r = .ok entry ∧ t' = s' := by
  have hperform : perform m (.cell label) s'
      = ((liftM (position label) : Action Reference) >>= fun r =>
          (liftM (entryAt s'.sheet m.today r) : Action CellEntry) >>= fun entry =>
            pure (.cell entry)) s' := rfl
  rw [hperform, hposition, Attempt.bind_of_ok (Attempt.lift_apply _ s')]
  constructor
  · intro h
    rcases Attempt.lift_bind_cases h with ⟨_, -, hfault, -⟩ | ⟨shown, hshown, h⟩
    · cases hfault
    · obtain ⟨htold, rfl⟩ := Prod.mk.inj h
      obtain rfl := Response.cell.inj (Except.ok.inj htold)
      exact ⟨hshown, rfl⟩
  · rintro ⟨hentry, rfl⟩
    rw [hentry, Attempt.bind_of_ok (Attempt.lift_apply _ _)]
    rfl

/-! What later edits leave. -/

theorem makeEdit_eq_ok
    {edit : CellEdit} {o : Outcome (Option Cell)}
    (h : makeEdit s r edit = .ok o) :
    o.sheet = { s with grid := s.grid.put r o.result true } ∧ o.result ≠ some .blank := by
  obtain ⟨raw, -, h⟩ := bind_eq_ok_iff.1 h
  obtain ⟨r', hr', hinput, -, hsheet⟩ := Sheet.enter_eq_ok h
  rw [Reference.ofInts?_natCast] at hr'
  obtain rfl := Option.some.inj hr'
  exact ⟨hsheet, ofInput?_ne_blank hinput⟩

/-- Where the columns of a grid can be counted, they still can when a cell is put. -/
theorem exists_columnCount_put
    {g : Grid} {cell : Option Cell} {columns : Int}
    (hcell : cell ≠ some .blank)
    (h : g.columnCount = .int columns) :
    ∃ columns', (g.put r cell true).columnCount = .int columns' := by
  rcases g.put_cases r hcell with ⟨-, hput⟩ | ⟨hne, hput⟩
  · exact ⟨columns, by rw [hput, h]⟩
  · have hwrites : cell ≠ none ∨ g.get? r ≠ none := by
      -- Two empty contents would have been equal.
      by_contra hempty
      rw [not_or, not_not, not_not] at hempty
      simp [hempty.1, hempty.2, Cell.equalContents] at hne
    have hcount := Grid.columnCount_write hwrites
    rw [h, Number.greatest_eq] at hcount
    rw [hput]
    change ∃ columns', (g.write r cell).columnCount = .int columns'
    rw [hcount]
    split <;> exact ⟨_, rfl⟩

theorem get?_put_of_ne
    {g : Grid} {cell : Option Cell}
    (hcell : cell ≠ some .blank)
    (hne : q ≠ r) :
    (g.put r cell true).get? q = g.get? q := by
  rcases g.put_cases r hcell with ⟨-, hput⟩ | ⟨-, hput⟩
  · rw [hput]
  · rw [hput]
    exact g.get?_write_of_ne cell hne

/-- Edits change neither the settings nor a cell at which none of them is made, and keep the
columns countable. -/
theorem leaves_of_types
    {edits : List CellEdit}
    (h : s.Types edits t) :
    t.settings = s.settings
      ∧ (∀ q : Reference, q.IsSparedBy edits → t.grid.get? q = s.grid.get? q)
      ∧ ∀ columns, s.columnCount = .int columns → ∃ columns', t.columnCount = .int columns' := by
  induction h with
  | nil => exact ⟨rfl, fun _ _ => rfl, fun columns h => ⟨columns, h⟩⟩
  | pass hplace h ih =>
      obtain ⟨hsettings, hcells, hcolumns⟩ := ih
      exact ⟨hsettings, fun q hq => hcells q fun e he => hq e (List.mem_cons_of_mem _ he), hcolumns⟩
  | @enter s _ edit edits r o hplace hmake h ih =>
      obtain ⟨hsettings, hcells, hcolumns⟩ := ih
      obtain ⟨hsheet, hblank⟩ := makeEdit_eq_ok hmake
      rw [hsheet] at hsettings hcells hcolumns
      refine ⟨hsettings, fun q hq => ?_, fun columns hcount => ?_⟩
      · have hne : q ≠ r := by
          rintro rfl
          exact hq edit List.mem_cons_self hplace
        rw [hcells q fun e he => hq e (List.mem_cons_of_mem _ he)]
        exact get?_put_of_ne hblank hne
      · obtain ⟨columns', hput⟩ := exists_columnCount_put (r := r) hblank hcount
        exact hcolumns columns' hput

/-! What is reported. -/

section Reporting

variable {m : Moment} {session session' : Session} {edits : List CellEdit}
  {labels refused : List String} {cells : List CellEntry}

/-- Where typing succeeds, it goes through the edits in order, and tells of each. -/
theorem reports_of_update
    (h : update m edits session = (.ok (refused, cells), session')) :
    session.sheet.Reports m.today edits refused cells session'.sheet := by
  induction edits generalizing session refused cells with
  | nil =>
      obtain ⟨htold, rfl⟩ := Prod.mk.inj h
      obtain ⟨rfl, rfl⟩ := Prod.mk.inj (Except.ok.inj htold)
      exact .nil
  | cons edit edits ih =>
      cases hlabel : edit.label with
      | error fault =>
          rw [update, hlabel, Attempt.bind_of_error (Attempt.lift_apply _ session)] at h
          cases (Prod.mk.inj h).1
      | ok label =>
          cases hposition : position label with
          | error fault =>
              rw [update, hlabel, Attempt.bind_of_ok (Attempt.lift_apply _ session),
                hposition] at h
              obtain ⟨⟨later, entries⟩, u, hrest, h⟩ := Attempt.bind_eq_ok_iff.1 h
              obtain ⟨htold, rfl⟩ := Prod.mk.inj h
              obtain ⟨rfl, rfl⟩ := Prod.mk.inj (Except.ok.inj htold)
              exact .refused hlabel hposition (ih hrest)
          | ok r =>
              rw [update_cons_of_place (CellEdit.place_eq_ok_some hlabel hposition)] at h
              rcases Attempt.lift_bind_cases h with ⟨_, -, hfault, -⟩ | ⟨o, hmake, h⟩
              · cases hfault
              rw [Attempt.bind_of_ok (applyOutcome_apply session m o),
                Attempt.bind_of_ok (markDirty_apply _), Attempt.get_bind] at h
              rcases Attempt.lift_bind_cases h with ⟨_, -, hfault, -⟩ | ⟨entry, hentry, h⟩
              · cases hfault
              obtain ⟨⟨later, entries⟩, u, hrest, h⟩ := Attempt.bind_eq_ok_iff.1 h
              obtain ⟨htold, rfl⟩ := Prod.mk.inj h
              obtain ⟨rfl, rfl⟩ := Prod.mk.inj (Except.ok.inj htold)
              exact .typed hlabel hposition hmake hentry (ih hrest)

theorem perform_update_eq_ok_iff
    {dirty : Bool} :
    perform m (.update edits) session = (.ok (.updated dirty refused cells), session')
      ↔ update m edits session = (.ok (refused, cells), session') ∧ session'.dirty = dirty := by
  have hperform : perform m (.update edits) session
      = (update m edits >>= fun told => get >>= fun s =>
          pure (.updated s.dirty told.1 told.2)) session := rfl
  rw [hperform, Attempt.bind_eq_ok_iff]
  constructor
  · rintro ⟨⟨labels, entries⟩, u, hupdate, h⟩
    obtain ⟨htold, rfl⟩ := Prod.mk.inj h
    obtain ⟨rfl, rfl, rfl⟩ := Response.updated.inj (Except.ok.inj htold)
    exact ⟨hupdate, rfl⟩
  · rintro ⟨hupdate, rfl⟩
    exact ⟨_, _, hupdate, rfl⟩

theorem types_of_reports
    (h : s.Reports today edits refused cells t) :
    s.Types edits t := by
  induction h with
  | nil => exact .nil
  | refused hlabel hposition _ ih => exact .pass (CellEdit.place_eq_ok_none hlabel hposition) ih
  | typed hlabel hposition hmake _ _ ih =>
      exact .enter (CellEdit.place_eq_ok_some hlabel hposition) hmake ih

theorem position_of_entryAt
    {entry : CellEntry}
    (h : entryAt s today r = .ok entry) :
    entry.position = r := by
  obtain ⟨_, -, h⟩ := bind_eq_ok_iff.1 h
  obtain ⟨_, -, h⟩ := bind_eq_ok_iff.1 h
  obtain ⟨_, -, h⟩ := bind_eq_ok_iff.1 h
  obtain rfl := Except.ok.inj h
  rfl

/-- Each label is refused or has an entry, in the order of the edits. -/
theorem labels_of_reports
    (h : s.Reports today edits refused cells t) :
    ∃ labels, edits.mapM CellEdit.label = .ok labels
      ∧ refused = labels.filter (fun label => (position label).toOption.isNone)
      ∧ cells.map CellEntry.position = labels.filterMap fun label => (position label).toOption := by
  induction h with
  | nil => exact ⟨[], rfl, rfl, rfl⟩
  | @refused _ _ _ _ label _ _ _ hlabel hposition _ ih =>
      obtain ⟨labels, hlabels, hrefused, hcells⟩ := ih
      refine ⟨label :: labels, ?_, ?_, ?_⟩
      · rw [List.mapM_cons, bind_of_eq_ok hlabel, bind_of_eq_ok hlabels]
        rfl
      · rw [List.filter_cons_of_pos (by rw [hposition]; rfl), hrefused]
      · rw [List.filterMap_cons_none (by rw [hposition]; rfl), hcells]
  | @typed _ _ _ _ label r _ _ _ _ hlabel hposition _ hentry _ ih =>
      obtain ⟨labels, hlabels, hrefused, hcells⟩ := ih
      refine ⟨label :: labels, ?_, ?_, ?_⟩
      · rw [List.mapM_cons, bind_of_eq_ok hlabel, bind_of_eq_ok hlabels]
        rfl
      · rw [List.filter_cons_of_neg (by rw [hposition]; exact Bool.false_ne_true), hrefused]
      · rw [List.filterMap_cons_some (by rw [hposition]; rfl), List.map_cons,
          position_of_entryAt hentry, hcells]

/-- The entry of an edit is made between the edits up to it and the later ones. -/
theorem entry_of_reports
    {earlier later : List CellEdit} {edit : CellEdit}
    (h : s.Reports today (earlier ++ edit :: later) refused cells t)
    (hplace : edit.place = .ok (some r)) :
    ∃ u entry, cells[(earlier.filter CellEdit.isNamed).length]? = some entry
      ∧ s.Types (earlier ++ [edit]) u
      ∧ entryAt u today r = .ok entry
      ∧ u.Types later t := by
  induction earlier generalizing s refused cells with
  | nil =>
      cases h with
      | refused hlabel hposition =>
          cases hplace.symm.trans (CellEdit.place_eq_ok_none hlabel hposition)
      | @typed _ _ _ _ _ _ o entry _ _ hlabel hposition hmake hentry h =>
          have hplace' := CellEdit.place_eq_ok_some hlabel hposition
          obtain rfl := Option.some.inj (Except.ok.inj (hplace.symm.trans hplace'))
          exact ⟨o.sheet, entry, rfl, .enter hplace hmake .nil, hentry, types_of_reports h⟩
  | cons first earlier ih =>
      cases h with
      | refused hlabel hposition h =>
          have hpass := CellEdit.place_eq_ok_none hlabel hposition
          obtain ⟨u, entry, hentry, htypes, hshown, hlater⟩ := ih h
          refine ⟨u, entry, ?_, .pass hpass htypes, hshown, hlater⟩
          simpa only [List.filter_cons, CellEdit.not_isNamed_of_place hpass, Bool.false_eq_true,
            if_false] using hentry
      | typed hlabel hposition hmake _ h =>
          have hfirst := CellEdit.place_eq_ok_some hlabel hposition
          obtain ⟨u, entry, hentry, htypes, hshown, hlater⟩ := ih h
          refine ⟨u, entry, ?_, .enter hfirst hmake htypes, hshown, hlater⟩
          simpa only [List.filter_cons, CellEdit.isNamed_of_place hfirst, if_true,
            List.length_cons, List.getElem?_cons_succ] using hentry

theorem tells_of_types
    {later : List CellEdit} {entry : CellEntry}
    (hshown : entryAt s m.today r = .ok entry)
    (h : s.Types later session'.sheet) :
    Tells m session' s later r entry := by
  obtain ⟨hsettings, hcells, hcolumns⟩ := leaves_of_types h
  constructor
  case shown => exact hshown
  case kept =>
    intro label after u hspared hposition hafter
    exact input_and_type_of_entryAt (hcells r hspared) hshown
      ((perform_cell_eq_ok_iff hposition).1 hafter).1
  case same =>
    intro label columns hcount hspared hposition
    obtain ⟨columns', hcount'⟩ := hcolumns columns hcount
    refine (perform_cell_eq_ok_iff hposition).2 ⟨?_, rfl⟩
    rw [entryAt_congr hsettings hcount hcount' fun q hq => hcells q (hspared q hq), hshown]

/-- Several edits are made one by one, and each has a refusal or an entry in their order.  An
entry tells what its position shows when its edit is made: afterwards its text for editing and
its type are still these unless a later edit is made at it, and so is all of it unless a later
edit is made where it depends on the cell, or the columns cannot be counted. -/
theorem tells_of_updated
    {dirty : Bool}
    (h : perform m (.update edits) session = (.ok (.updated dirty refused cells), session')) :
    session.sheet.Types edits session'.sheet
      ∧ (∃ labels, edits.mapM CellEdit.label = .ok labels
        ∧ refused = labels.filter (fun label => (position label).toOption.isNone)
        ∧ cells.map CellEntry.position
          = labels.filterMap fun label => (position label).toOption)
      ∧ ∀ {earlier later : List CellEdit} {edit : CellEdit} {r : Reference},
        edits = earlier ++ edit :: later → edit.place = .ok (some r) →
          ∃ u entry, cells[(earlier.filter CellEdit.isNamed).length]? = some entry
            ∧ session.sheet.Types (earlier ++ [edit]) u
            ∧ Tells m session' u later r entry := by
  obtain ⟨hupdate, -⟩ := perform_update_eq_ok_iff.1 h
  have hreports := reports_of_update hupdate
  refine ⟨types_of_reports hreports, labels_of_reports hreports, ?_⟩
  rintro earlier later edit r rfl hplace
  obtain ⟨v, entry, hentry, htypes, hshown, hlater⟩ := entry_of_reports hreports hplace
  exact ⟨v, entry, hentry, htypes, tells_of_types hshown hlater⟩

/-- A number, a label that names no position, and twice the number. -/
def doubledNumber : List CellEdit :=
  [.ofTexts "A1" (some "5"), .ofTexts "?" (some "x"), .ofTexts "B1" (some "=A1*2")]

/-- The last entry is what its position shows afterwards. -/
theorem tells_of_updated_doubledNumber :
    ∃ s s' dirty refused cells entry, fresh = .ok s
      ∧ perform springDay (.update doubledNumber) s
        = (.ok (.updated dirty refused cells), s')
      ∧ cells[1]? = some entry
      ∧ perform springDay (.cell "B1") s' = (.ok (.cell entry), s') := by
  have hsteps : (do
      let s ← fresh
      let _ ← (update springDay doubledNumber s).1
      return decide (s.sheet.columnCount = .int 10)) = Except.ok true := by decide +kernel
  obtain ⟨s, hs, hsteps⟩ := bind_eq_ok_iff.1 hsteps
  obtain ⟨⟨refused, cells⟩, htold, hsteps⟩ := bind_eq_ok_iff.1 hsteps
  have hcount := of_decide_eq_true (Except.ok.inj hsteps)
  have hperform := perform_update_eq_ok_iff.2 ⟨Prod.ext htold rfl, rfl⟩
  obtain ⟨-, -, hentries⟩ := tells_of_updated hperform
  have hedits : doubledNumber = [.ofTexts "A1" (some "5"), .ofTexts "?" (some "x")]
      ++ .ofTexts "B1" (some "=A1*2") :: [] := rfl
  have hplace : (CellEdit.ofTexts "B1" (some "=A1*2")).place = .ok (some ⟨1, 0⟩) := by
    decide +kernel
  obtain ⟨u, entry, hentry, htypes, htells⟩ := hentries hedits hplace
  obtain ⟨-, -, hcolumns⟩ := leaves_of_types htypes
  obtain ⟨columns, hcolumns⟩ := hcolumns _ hcount
  have hnamed : (([.ofTexts "A1" (some "5"), .ofTexts "?" (some "x")] : List CellEdit).filter
      CellEdit.isNamed).length = 1 := by decide +kernel
  rw [hnamed] at hentry
  refine ⟨s, _, _, refused, cells, entry, hs, hperform, hentry, ?_⟩
  exact htells.same hcolumns (fun _ _ _ he => by cases he) (by decide +kernel)

/-- A formula, and then the cell that it refers to. -/
def operandLast : List CellEdit :=
  [.ofTexts "A1" (some "=B1"), .ofTexts "B1" (some "5")]

/-- The entry of a formula shows what it gave before its operand was typed in. -/
theorem updated_before_operand :
    ∃ (s s' : Session) (cells : List CellEntry) (entry : CellEntry), fresh = .ok s ∧ Reachable s
      ∧ perform springDay (.update operandLast) s = (.ok (.updated true [] cells), s')
      ∧ perform springDay (.cell "A1") s' = (.ok (.cell entry), s')
      ∧ cells.map CellEntry.label = ["A1", "B1"] ∧ entry.label = "A1"
      ∧ cells.map CellEntry.display = ["0", "5"] ∧ entry.display = "5" := by
  have hsteps : (do
      let s ← fresh
      let s' := (update springDay operandLast s).2
      let told ← (update springDay operandLast s).1
      let entry ← entryAt s'.sheet springDay.today ⟨0, 0⟩
      return decide (IsWritable s.sheet.rowCount) && decide (s'.dirty = true)
        && decide (told.1 = []) && decide (told.2.map CellEntry.label = ["A1", "B1"])
        && decide (entry.label = "A1") && decide (told.2.map CellEntry.display = ["0", "5"])
        && decide (entry.display = "5")) = Except.ok true := by decide +kernel
  obtain ⟨s, hs, hsteps⟩ := bind_eq_ok_iff.1 hsteps
  obtain ⟨⟨refused, cells⟩, htold, hsteps⟩ := bind_eq_ok_iff.1 hsteps
  obtain ⟨entry, hentry, hsteps⟩ := bind_eq_ok_iff.1 hsteps
  have hsteps := Except.ok.inj hsteps
  simp only [Bool.and_eq_true, decide_eq_true_eq] at hsteps
  obtain ⟨⟨⟨⟨⟨⟨hroom, hdirty⟩, rfl⟩, hlabels⟩, hlabel⟩, hdisplays⟩, hdisplay⟩ := hsteps
  refine ⟨s, _, cells, entry, hs, .opened (Prod.ext hs rfl) hroom,
    perform_update_eq_ok_iff.2 ⟨Prod.ext htold rfl, hdirty⟩, ?_, hlabels, hlabel, hdisplays,
    hdisplay⟩
  exact (perform_cell_eq_ok_iff (r := ⟨0, 0⟩) (by decide +kernel)).2 ⟨hentry, rfl⟩

end Reporting

end Lemmas

end Session
end Spreadsheet
