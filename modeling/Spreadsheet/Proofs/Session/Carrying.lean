import Spreadsheet.Proofs.Session.Effect
import Spreadsheet.Proofs.Sheet.Alike

/-!
# Requests that change what is stored

Nine requests change the document of a session.  What they do where they succeed
depends on the sheet alone, neither on the files nor on the mark that it was
changed.

Results: such a request succeeds exactly where the sheet can be changed as it asks
(`reaches_perform_iff`), it amounts to some operations (`CarriesOut.exists_run`),
and where it succeeds on a sheet it does so on one that covers it
(`Covers.carriesOut`).
-/

namespace Spreadsheet

/-- The request changes what is stored, and neither goes through the history nor
presents or selects anything. -/
def Request.IsEdit : Request → Prop
  | .update _ | .sort _ _ | .insertRow _ | .deleteRow _ | .insertColumn _ | .deleteColumn _
  | .resizeColumn _ _ | .setHidden _ _ | .freeze _ _ => True
  | _ => False

namespace Restructuring

/-- The request for a change at an index. -/
def request : Restructuring → Int → Request
  | insertRow => .insertRow
  | insertColumn => .insertColumn
  | deleteRow => .deleteRow
  | deleteColumn => .deleteColumn

/-- Fails for an index that a session refuses to make the change at. -/
def check (op : Restructuring) (s : Sheet) (index : Int) : Except Fault Unit :=
  match op with
  | insertRow => Session.checkIndex .rowIndex index (.int s.rowCount) true
  | insertColumn => Session.checkIndex .columnIndex index s.columnCount true
  | deleteRow => Session.checkIndex .rowIndex index (.int s.rowCount) false
  | deleteColumn => Session.checkIndex .columnIndex index s.columnCount false

/-- Why a line that exists is not deleted. -/
def refusal : Restructuring → Option Rejection
  | deleteRow => some .lastRow
  | deleteColumn => some .lastColumn
  | _ => none

end Restructuring

namespace Sheet

/-- Edits typed into a sheet one after the other, each of them shown; those whose
labels name no position are passed over. -/
inductive Enters (today : Date) : Sheet → List CellEdit → Sheet → Prop
  | nil
      {s : Sheet} :
      Enters today s [] s
  | pass
      {s s' : Sheet} {edit : CellEdit} {edits : List CellEdit}
      (hplace : edit.place = .ok none)
      (h : Enters today s edits s') :
      Enters today s (edit :: edits) s'
  | enter
      {s s' : Sheet} {edit : CellEdit} {edits : List CellEdit} {r : Reference}
      {o : Outcome (Option Cell)} {entry : CellEntry}
      (hplace : edit.place = .ok (some r))
      (hmake : Session.makeEdit s r edit = .ok o)
      (hentry : Session.entryAt o.sheet today r = .ok entry)
      (h : Enters today o.sheet edits s') :
      Enters today s (edit :: edits) s'

/-- A number of rows or columns frozen, if one is given. -/
inductive FreezesSome (f : Sheet → Number → Except Fault Sheet) (s : Sheet) :
    Option Number → Sheet → Prop
  | none :
      FreezesSome f s none s
  | some
      {count : Number} {s' : Sheet}
      (haccepts : View.accepts count = true)
      (h : f s count = .ok s') :
      FreezesSome f s (some count) s'

/-- A line comes in or goes out at an index; one that is there to be deleted is. -/
def Restructures (s : Sheet) (op : Restructuring) (index : Int) (s' : Sheet) : Prop :=
  op.check s index = .ok ()
    ∧ ∃ o, s.restructure op index = .ok o ∧ (o.result = true ∨ op.refusal = none) ∧ o.sheet = s'

/-- What a request that changes what is stored does to the sheet where it
succeeds. -/
def CarriesOut (today : Date) (s : Sheet) (request : Request) (s' : Sheet) : Prop :=
  match request with
  | .update edits => s.Enters today edits s'
  | .sort column ascending =>
      ∃ col, column.column = .ok col ∧ (Number.int col).less s.columnCount = true
        ∧ ∃ o, s.sort today col ascending = .ok o ∧ o.sheet = s'
  | .insertRow index => s.Restructures .insertRow index s'
  | .deleteRow index => s.Restructures .deleteRow index s'
  | .insertColumn index => s.Restructures .insertColumn index s'
  | .deleteColumn index => s.Restructures .deleteColumn index s'
  | .resizeColumn col width =>
      Session.checkIndex .columnIndex col s.columnCount false = .ok ()
        ∧ ∃ given, s.resizeColumn col width = .ok (given, s')
  | .setHidden col hidden =>
      Session.checkIndex .columnIndex col s.columnCount false = .ok ()
        ∧ s.setHidden col hidden = .ok s'
  | .freeze rows cols =>
      ∃ u, s.FreezesSome setFrozenRows rows u ∧ u.FreezesSome setFrozenColumns cols s'
  | _ => False

end Sheet

namespace Attempt

section Lemmas

variable {ε σ α β : Type} {s t : σ} {b : β}

theorem bind_eq_ok_iff
    {x : Attempt ε σ α} {next : α → Attempt ε σ β} :
    (x >>= next) s = (.ok b, t) ↔ ∃ a u, x s = (.ok a, u) ∧ next a u = (.ok b, t) := by
  constructor
  · intro h
    rcases bind_cases h with ⟨_, -, hfault⟩ | h
    · cases hfault
    · exact h
  · rintro ⟨a, u, hx, hnext⟩
    rw [bind_of_ok hx, hnext]

end Lemmas

end Attempt

namespace Session

/-- The action succeeds and leaves a sheet. -/
def Reaches {α : Type} (x : Action α) (s : Session) (sheet : Sheet) : Prop :=
  ∃ a s', x s = (.ok a, s') ∧ s'.sheet = sheet

section Lemmas

variable {α β : Type} {m : Moment} {s : Session} {t : Sheet}

theorem reaches_pure_iff
    {a : α} :
    Reaches (pure a) s t ↔ s.sheet = t := by
  constructor
  · rintro ⟨_, _, h, ht⟩
    obtain ⟨-, rfl⟩ := Prod.mk.inj h
    exact ht
  · exact fun ht => ⟨a, s, rfl, ht⟩

theorem reaches_bind_iff
    {x : Action α} {next : α → Action β} :
    Reaches (x >>= next) s t ↔ ∃ a u, x s = (.ok a, u) ∧ Reaches (next a) u t := by
  constructor
  · rintro ⟨b, s', h, ht⟩
    obtain ⟨a, u, hx, hnext⟩ := Attempt.bind_eq_ok_iff.1 h
    exact ⟨a, u, hx, b, s', hnext, ht⟩
  · rintro ⟨a, u, hx, b, s', hnext, ht⟩
    exact ⟨b, s', Attempt.bind_eq_ok_iff.2 ⟨a, u, hx, hnext⟩, ht⟩

theorem reaches_lift_bind_iff
    {x : Except Fault α} {next : α → Action β} :
    Reaches ((liftM x : Action α) >>= next) s t ↔ ∃ a, x = .ok a ∧ Reaches (next a) s t := by
  rw [reaches_bind_iff]
  constructor
  · rintro ⟨a, u, hx, hnext⟩
    rw [Attempt.lift_apply] at hx
    obtain ⟨ha, rfl⟩ := Prod.mk.inj hx
    exact ⟨a, ha, hnext⟩
  · rintro ⟨a, rfl, hnext⟩
    exact ⟨a, s, Attempt.lift_apply (.ok a) s, hnext⟩

theorem reaches_bind_of_ok
    {x : Action α} {next : α → Action β} {a : α} {u : Session}
    (h : x s = (.ok a, u)) :
    Reaches (x >>= next) s t ↔ Reaches (next a) u t := by
  rw [Reaches, Attempt.bind_of_ok h, ← Reaches]

theorem reaches_congr
    {x y : Action α}
    (h : x s = y s) :
    Reaches x s t ↔ Reaches y s t := by
  rw [Reaches, h, ← Reaches]

/-- What only tells of a result, or marks it, leaves the sheet that is told of. -/
theorem reaches_telling_iff
    {x : Action α} {next : α → Action β}
    (hnext : ∀ a u, ∃ b v, next a u = (.ok b, v) ∧ v.sheet = u.sheet) :
    Reaches (x >>= next) s t ↔ Reaches x s t := by
  rw [reaches_bind_iff]
  constructor
  · rintro ⟨a, u, hx, b, s', h, ht⟩
    obtain ⟨_, v, htold, hsheet⟩ := hnext a u
    obtain ⟨-, rfl⟩ := Prod.mk.inj (htold.symm.trans h)
    exact ⟨a, u, hx, hsheet.symm.trans ht⟩
  · rintro ⟨a, u, hx, ht⟩
    obtain ⟨b, v, htold, hsheet⟩ := hnext a u
    exact ⟨a, u, hx, b, v, htold, hsheet.trans ht⟩

theorem not_reaches_error
    {x : Action α} {s' : Session} {fault : Fault}
    (h : x s = (.error fault, s')) :
    ¬ Reaches x s t := by
  rintro ⟨_, _, hok, -⟩
  cases (Prod.mk.inj (h.symm.trans hok)).1

/-! Texts typed into several cells. -/

section Update

variable {edit : CellEdit} {edits : List CellEdit}

theorem reaches_update_cons_of_unlabelled
    {fault : Fault}
    (hlabel : edit.label = .error fault) :
    ¬ Reaches (update m (edit :: edits)) s t := by
  have hfails : update m (edit :: edits) s = (.error fault, s) := by
    rw [update, hlabel, Attempt.bind_of_error (Attempt.lift_apply _ s)]
  exact not_reaches_error hfails

theorem reaches_update_cons_of_pass
    {label : String} {fault : Fault}
    (hlabel : edit.label = .ok label)
    (hposition : position label = .error fault) :
    Reaches (update m (edit :: edits)) s t ↔ Reaches (update m edits) s t := by
  rw [update, hlabel, reaches_lift_bind_iff]
  simp only [Except.ok.injEq, exists_eq_left', hposition]
  exact reaches_telling_iff fun _ _ => ⟨_, _, rfl, rfl⟩

theorem reaches_update_cons_of_place
    {r : Reference}
    (hplace : edit.place = .ok (some r)) :
    Reaches (update m (edit :: edits)) s t
      ↔ ∃ o, makeEdit s.sheet r edit = .ok o
        ∧ ∃ entry, entryAt o.sheet m.today r = .ok entry
          ∧ Reaches (update m edits) { s.applied m o with dirty := true } t := by
  rw [reaches_congr (update_cons_of_place hplace), reaches_lift_bind_iff]
  refine exists_congr fun o => and_congr_right fun _ => ?_
  rw [reaches_bind_of_ok (applyOutcome_apply s m o), reaches_bind_of_ok (markDirty_apply _),
    reaches_congr (Attempt.get_bind _ _), reaches_lift_bind_iff]
  refine exists_congr fun entry => and_congr_right fun _ => ?_
  exact reaches_telling_iff fun _ _ => ⟨_, _, rfl, rfl⟩

/-- Typing succeeds where every edit that names a position is made and shown. -/
theorem reaches_update_iff :
    Reaches (update m edits) s t ↔ s.sheet.Enters m.today edits t := by
  induction edits generalizing s with
  | nil =>
      rw [update, reaches_pure_iff]
      constructor
      · rintro rfl
        exact .nil
      · rintro ⟨⟩
        rfl
  | cons edit edits ih =>
      cases hlabel : edit.label with
      | error fault =>
          have hplace := CellEdit.place_eq_error hlabel
          refine iff_of_false (reaches_update_cons_of_unlabelled hlabel) fun h => ?_
          cases h with
          | pass hpass => cases hplace.symm.trans hpass
          | enter henter => cases hplace.symm.trans henter
      | ok label =>
          cases hposition : position label with
          | error fault =>
              have hplace := CellEdit.place_eq_ok_none hlabel hposition
              rw [reaches_update_cons_of_pass hlabel hposition, ih]
              constructor
              · exact fun h => .pass hplace h
              · intro h
                cases h with
                | pass _ h => exact h
                | enter henter => cases hplace.symm.trans henter
          | ok r =>
              have hplace := CellEdit.place_eq_ok_some hlabel hposition
              rw [reaches_update_cons_of_place hplace]
              constructor
              · rintro ⟨o, hmake, entry, hentry, h⟩
                exact .enter hplace hmake hentry (ih.1 h)
              · intro h
                cases h with
                | pass hpass => cases hplace.symm.trans hpass
                | enter hplace' hmake hentry h =>
                    obtain rfl := Option.some.inj (Except.ok.inj (hplace.symm.trans hplace'))
                    exact ⟨_, hmake, _, hentry, ih.2 h⟩

theorem reaches_perform_update_iff :
    Reaches (perform m (.update edits)) s t ↔ s.sheet.Enters m.today edits t := by
  rw [← reaches_update_iff]
  exact reaches_telling_iff fun _ _ => ⟨_, _, rfl, rfl⟩

end Update

/-! The other requests. -/

section Requests

theorem reaches_restructure_iff
    {op : Restructuring} {index : Int} {refusal : Option Rejection} :
    Reaches (restructure m op index refusal) s t
      ↔ ∃ o, s.sheet.restructure op index = .ok o ∧ (o.result = true ∨ refusal = none)
        ∧ o.sheet = t := by
  rw [restructure, reaches_congr (Attempt.get_bind _ _), reaches_lift_bind_iff]
  refine exists_congr fun o => and_congr_right fun _ => ?_
  rw [reaches_bind_of_ok (applyOutcome_apply s m o)]
  have hmade : Reaches (markDirty >>= fun _ => get >>= fun s => pure (Response.status (s.status true)))
      (s.applied m o) t ↔ o.sheet = t := by
    rw [reaches_bind_of_ok (markDirty_apply _), reaches_congr (Attempt.get_bind _ _),
      reaches_pure_iff]
    rfl
  cases o.result with
  | true => simpa using hmade
  | false =>
      cases refusal with
      | none => simpa using hmade
      | some cause =>
          exact iff_of_false (fun h => not_reaches_error rfl h) (by simp)

theorem reaches_freezeSome_iff
    {cause : Rejection} {f : Sheet → Number → Except Fault Sheet} {given : Option Number}
    (hf : Sheet.Freezes f) :
    Reaches (freezeSome cause f given) s t ↔ s.sheet.FreezesSome f given t := by
  constructor
  · rintro ⟨a, s', h, rfl⟩
    rcases freezeSome_cases hf h with
      ⟨_, _, hok, -⟩ | ⟨-, rfl, rfl⟩ | ⟨count, sheet, -, rfl, haccepts, hsheet, rfl⟩
    · cases hok
    · exact .none
    · exact .some haccepts hsheet
  · intro h
    cases h with
    | none => exact ⟨_, _, rfl, rfl⟩
    | @some count _ haccepts h =>
        obtain ⟨hnegative, -⟩ := View.accepts_iff.1 haccepts
        have hstep : freezeSome cause f (some count) s
            = ((liftM (f s.sheet count) : Action Sheet)
                >>= fun sheet => modify fun s => { s with sheet := sheet }) s := by
          rw [freezeSome, hnegative]
          rfl
        rw [reaches_congr hstep, reaches_lift_bind_iff]
        exact ⟨_, h, _, _, rfl, rfl⟩

theorem reaches_freeze_iff
    {rows cols : Option Number} :
    Reaches (perform m (.freeze rows cols)) s t
      ↔ ∃ u, s.sheet.FreezesSome Sheet.setFrozenRows rows u
        ∧ u.FreezesSome Sheet.setFrozenColumns cols t := by
  rw [perform, reaches_congr (Attempt.get_bind _ _), reaches_bind_iff]
  constructor
  · rintro ⟨_, v, hrows, h⟩
    rw [reaches_telling_iff, reaches_freezeSome_iff Sheet.freezes_setFrozenColumns] at h
    · exact ⟨v.sheet, (reaches_freezeSome_iff Sheet.freezes_setFrozenRows).1 ⟨_, v, hrows, rfl⟩, h⟩
    · exact fun _ _ => ⟨_, _, rfl, rfl⟩
  · rintro ⟨u, hrows, hcols⟩
    obtain ⟨a, v, hrows, rfl⟩ := (reaches_freezeSome_iff Sheet.freezes_setFrozenRows).2 hrows
    refine ⟨a, v, hrows, ?_⟩
    rw [reaches_telling_iff, reaches_freezeSome_iff Sheet.freezes_setFrozenColumns]
    · exact hcols
    · exact fun _ _ => ⟨_, _, rfl, rfl⟩

theorem reaches_request_iff
    (op : Restructuring) (index : Int) :
    Reaches (perform m (op.request index)) s t ↔ s.sheet.Restructures op index t := by
  have hperform : perform m (op.request index) s
      = ((liftM (op.check s.sheet index) : Action Unit) >>= fun _ =>
          restructure m op index op.refusal) s := by
    cases op <;> rfl
  rw [reaches_congr hperform, reaches_lift_bind_iff]
  constructor
  · rintro ⟨_, hcheck, h⟩
    exact ⟨hcheck, reaches_restructure_iff.1 h⟩
  · rintro ⟨hcheck, h⟩
    exact ⟨(), hcheck, reaches_restructure_iff.2 h⟩

theorem reaches_sort_iff
    {column : ColumnName} {ascending : Bool} :
    Reaches (perform m (.sort column ascending)) s t
      ↔ ∃ col, column.column = .ok col ∧ (Number.int col).less s.sheet.columnCount = true
        ∧ ∃ o, s.sheet.sort m.today col ascending = .ok o ∧ o.sheet = t := by
  rw [perform, reaches_congr (Attempt.get_bind _ _), reaches_lift_bind_iff]
  refine exists_congr fun col => and_congr_right fun _ => ?_
  cases hlt : (Number.int col).less s.sheet.columnCount with
  | false =>
      refine iff_of_false ?_ (by simp)
      simp only [Bool.not_false, if_true]
      rw [reaches_lift_bind_iff]
      rintro ⟨text, -, h⟩
      exact not_reaches_error rfl h
  | true =>
      simp only [Bool.not_true, Bool.false_eq_true, if_false, true_and]
      rw [reaches_lift_bind_iff]
      refine exists_congr fun o => and_congr_right fun _ => ?_
      rw [reaches_bind_of_ok (applyOutcome_apply s m o), reaches_bind_of_ok (markDirty_apply _),
        reaches_congr (Attempt.get_bind _ _), reaches_pure_iff]
      rfl

theorem reaches_resizeColumn_iff
    {col : Int} {width : Number} :
    Reaches (perform m (.resizeColumn col width)) s t
      ↔ checkIndex .columnIndex col s.sheet.columnCount false = .ok ()
        ∧ ∃ given, s.sheet.resizeColumn col width = .ok (given, t) := by
  rw [perform, reaches_congr (Attempt.get_bind _ _), reaches_lift_bind_iff]
  constructor
  · rintro ⟨_, hcheck, h⟩
    rw [reaches_lift_bind_iff] at h
    obtain ⟨⟨given, sheet⟩, hresize, _, _, h, rfl⟩ := h
    obtain ⟨-, rfl⟩ := Prod.mk.inj h
    exact ⟨hcheck, given, hresize⟩
  · rintro ⟨hcheck, given, hresize⟩
    refine ⟨(), hcheck, ?_⟩
    rw [reaches_lift_bind_iff]
    exact ⟨_, hresize, _, _, rfl, rfl⟩

theorem reaches_setHidden_iff
    {col : Int} {hidden : Bool} :
    Reaches (perform m (.setHidden col hidden)) s t
      ↔ checkIndex .columnIndex col s.sheet.columnCount false = .ok ()
        ∧ s.sheet.setHidden col hidden = .ok t := by
  rw [perform, reaches_congr (Attempt.get_bind _ _), reaches_lift_bind_iff]
  constructor
  · rintro ⟨_, hcheck, h⟩
    rw [reaches_telling_iff] at h
    · obtain ⟨_, s', h, rfl⟩ := h
      rcases change_cases h with ⟨_, hfault, -⟩ | ⟨sheet, -, hsheet, rfl⟩
      · cases hfault
      · exact ⟨hcheck, hsheet⟩
    · exact fun _ _ => ⟨_, _, rfl, rfl⟩
  · rintro ⟨hcheck, hhide⟩
    refine ⟨(), hcheck, ?_⟩
    rw [reaches_telling_iff]
    · rw [change, reaches_congr (Attempt.get_bind _ _), reaches_lift_bind_iff]
      exact ⟨t, hhide, _, _, rfl, rfl⟩
    · exact fun _ _ => ⟨_, _, rfl, rfl⟩

end Requests

/-- A request that changes what is stored succeeds where the sheet can be changed
as it asks. -/
theorem reaches_perform_iff
    {request : Request}
    (hedit : request.IsEdit) :
    Reaches (perform m request) s t ↔ s.sheet.CarriesOut m.today request t := by
  cases request with
  | update edits => exact reaches_perform_update_iff
  | sort column ascending => exact reaches_sort_iff
  | insertRow index => exact reaches_request_iff .insertRow index
  | deleteRow index => exact reaches_request_iff .deleteRow index
  | insertColumn index => exact reaches_request_iff .insertColumn index
  | deleteColumn index => exact reaches_request_iff .deleteColumn index
  | resizeColumn col width => exact reaches_resizeColumn_iff
  | setHidden col hidden => exact reaches_setHidden_iff
  | freeze rows cols => exact reaches_freeze_iff
  | _ => exact hedit.elim

end Lemmas

end Session

namespace Sheet

section Lemmas

variable {today : Date} {s s' t : Sheet} {request : Request}

/-! What is carried out amounts to some operations. -/

section Run

theorem run_singleton
    {o : Outcome Bool}
    (op : Operation)
    (h : op.perform s = .ok o) :
    Operation.run s [op] = o.sheet :=
  Operation.after_of_ok h

theorem Enters.exists_run
    {edits : List CellEdit}
    (h : s.Enters today edits s') :
    ∃ ops, s' = Operation.run s ops := by
  induction h with
  | nil => exact ⟨[], rfl⟩
  | pass _ _ ih => exact ih
  | @enter s _ _ _ r o _ _ hmake _ _ ih =>
      obtain ⟨ops, rfl⟩ := ih
      obtain ⟨raw, -, henter⟩ := bind_eq_ok_iff.1 hmake
      have hperform : (Operation.enter r.col r.row (raw.getD "")).perform s
          = .ok ⟨true, o.sheet, o.events⟩ :=
        bind_eq_ok_iff.2 ⟨o, henter, rfl⟩
      refine ⟨.enter r.col r.row (raw.getD "") :: ops, ?_⟩
      rw [← run_singleton _ hperform]
      rfl

theorem FreezesSome.exists_run
    {f : Sheet → Number → Except Fault Sheet} {given : Option Number}
    (op : Number → Operation)
    (hop : ∀ s count, (op count).perform s = do return ⟨true, ← f s count, []⟩)
    (h : s.FreezesSome f given s') :
    ∃ ops, s' = Operation.run s ops := by
  cases h with
  | none => exact ⟨[], rfl⟩
  | @some count _ _ h =>
      refine ⟨[op count], (run_singleton (o := ⟨true, s', []⟩) (op count) ?_).symm⟩
      rw [hop, h]
      rfl

theorem Restructures.exists_run
    {op : Restructuring} {index : Int}
    (h : s.Restructures op index s') :
    ∃ ops, s' = Operation.run s ops := by
  obtain ⟨-, o, h, -, rfl⟩ := h
  exact ⟨[.restructure op index], (run_singleton (.restructure op index) h).symm⟩

/-- What a request does to the sheet where it succeeds, some operations do. -/
theorem CarriesOut.exists_run
    (h : s.CarriesOut today request s') :
    ∃ ops, s' = Operation.run s ops := by
  cases request with
  | update edits => exact Enters.exists_run h
  | sort column ascending =>
      obtain ⟨col, -, -, o, h, rfl⟩ := h
      exact ⟨[.sort today col ascending], (run_singleton (.sort today col ascending) h).symm⟩
  | insertRow index => exact Restructures.exists_run h
  | deleteRow index => exact Restructures.exists_run h
  | insertColumn index => exact Restructures.exists_run h
  | deleteColumn index => exact Restructures.exists_run h
  | resizeColumn col width =>
      obtain ⟨-, given, h⟩ := h
      have hperform : (Operation.resizeColumn col width).perform s = .ok ⟨true, s', []⟩ :=
        bind_eq_ok_iff.2 ⟨_, h, rfl⟩
      exact ⟨_, (run_singleton _ hperform).symm⟩
  | setHidden col hidden =>
      have hperform : (Operation.setHidden col hidden).perform s = .ok ⟨true, s', []⟩ :=
        bind_eq_ok_iff.2 ⟨_, h.2, rfl⟩
      exact ⟨_, (run_singleton _ hperform).symm⟩
  | freeze rows cols =>
      obtain ⟨u, hrows, hcols⟩ := h
      obtain ⟨ops, rfl⟩ := hrows.exists_run .setFrozenRows fun _ _ => rfl
      obtain ⟨ops', rfl⟩ := hcols.exists_run .setFrozenColumns fun _ _ => rfl
      exact ⟨ops ++ ops', List.foldl_append.symm⟩
  | _ => exact h.elim

end Run

/-! What is carried out on a sheet can be carried out on one that covers it. -/

namespace Covers

variable (h : s.Covers t)

include h

theorem enters
    {edits : List CellEdit}
    (henters : s.Enters today edits s') :
    ∃ t', t.Enters today edits t' ∧ s'.Covers t' := by
  induction henters generalizing t with
  | nil => exact ⟨t, .nil, h⟩
  | pass hplace _ ih =>
      obtain ⟨t', henters', hcovers⟩ := ih h
      exact ⟨t', .pass hplace henters', hcovers⟩
  | enter hplace hmake hentry _ ih =>
      obtain ⟨raw, hraw, hmake⟩ := bind_eq_ok_iff.1 hmake
      obtain ⟨o', hmake', hcovers⟩ := h.enter hmake
      obtain ⟨t', henters', hcovers'⟩ := ih hcovers
      rw [← hcovers.alike.entryAt] at hentry
      exact ⟨t', .enter hplace (bind_eq_ok_iff.2 ⟨raw, hraw, hmake'⟩) hentry henters', hcovers'⟩

theorem freezesSome
    (set : View → Number → Except Fault View)
    {given : Option Number}
    (hfreezes : s.FreezesSome (fun s count => do return { s with view := ← set s.view count })
      given s') :
    ∃ t', t.FreezesSome (fun s count => do return { s with view := ← set s.view count }) given t'
      ∧ s'.Covers t' := by
  cases hfreezes with
  | none => exact ⟨t, .none, h⟩
  | @some count _ haccepts hset =>
      obtain ⟨t', hset', hcovers⟩ := h.view_change (set · count) hset
      exact ⟨t', .some haccepts hset', hcovers⟩

theorem restructures
    {op : Restructuring} {index : Int}
    (hrows : s.grid.rows ≠ [])
    (hcount : ∃ n, s.columnCount.count = .ok n)
    (hmade : s.Restructures op index s')
    (hkept : op = .deleteRow → s'.columnCount = s.columnCount) :
    ∃ t', t.Restructures op index t' ∧ s'.Alike t' := by
  obtain ⟨hcheck, o, hmade, hresult, rfl⟩ := hmade
  have hcheck' : op.check t index = op.check s index := by
    unfold Restructuring.check
    rw [h.alike.rowCount, h.alike.columnCount]
  obtain ⟨o', hmade', hresult', halike⟩ := h.restructure hrows hcount hmade hkept
  exact ⟨o'.sheet, ⟨hcheck'.trans hcheck, o', hmade', hresult' ▸ hresult, rfl⟩, halike⟩

/-- Where a request succeeds on a sheet it does so on one that covers it, and
leaves the two alike, unless it deletes a row that makes the sheet narrower. -/
theorem carriesOut
    (hrows : s.grid.rows ≠ [])
    (hcount : ∃ n, s.columnCount.count = .ok n)
    (hcarries : s.CarriesOut today request s')
    (hkept : ∀ index, request = .deleteRow index → s'.columnCount = s.columnCount) :
    ∃ t', t.CarriesOut today request t' ∧ s'.Alike t' := by
  have hcovers : (∃ t', t.CarriesOut today request t' ∧ s'.Covers t')
      → ∃ t', t.CarriesOut today request t' ∧ s'.Alike t' :=
    fun ⟨t', hcarries', hcovers⟩ => ⟨t', hcarries', hcovers.alike⟩
  cases request with
  | update edits => exact hcovers (h.enters hcarries)
  | sort column ascending =>
      obtain ⟨col, hcol, hlt, o, hsort, rfl⟩ := hcarries
      obtain ⟨o', hsort', halike⟩ := h.alike.sort hsort
      exact ⟨o'.sheet, ⟨col, hcol, h.alike.columnCount ▸ hlt, o', hsort', rfl⟩, halike⟩
  | insertRow index => exact h.restructures hrows hcount hcarries fun hop => by cases hop
  | deleteRow index => exact h.restructures hrows hcount hcarries fun _ => hkept index rfl
  | insertColumn index => exact h.restructures hrows hcount hcarries fun hop => by cases hop
  | deleteColumn index => exact h.restructures hrows hcount hcarries fun hop => by cases hop
  | resizeColumn col width =>
      obtain ⟨hcheck, given, hresize⟩ := hcarries
      obtain ⟨t', hresize', hcovers'⟩ := h.resizeColumn hresize
      exact ⟨t', ⟨h.alike.columnCount ▸ hcheck, given, hresize'⟩, hcovers'.alike⟩
  | setHidden col hidden =>
      obtain ⟨hcheck, hhide⟩ := hcarries
      obtain ⟨t', hhide', hcovers'⟩ := h.view_change (·.setHidden col hidden) hhide
      exact ⟨t', ⟨h.alike.columnCount ▸ hcheck, hhide'⟩, hcovers'.alike⟩
  | freeze rows cols =>
      obtain ⟨u, hfreezeRows, hfreezeCols⟩ := hcarries
      obtain ⟨v, hfreezeRows', hcovers'⟩ := h.freezesSome View.setFrozenRows hfreezeRows
      obtain ⟨t', hfreezeCols', hcovers''⟩ :=
        hcovers'.freezesSome View.setFrozenColumns hfreezeCols
      exact ⟨t', ⟨v, hfreezeRows', hfreezeCols'⟩, hcovers''.alike⟩
  | _ => exact hcarries.elim

end Covers

end Lemmas

end Sheet
end Spreadsheet
