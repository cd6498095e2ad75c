import Spreadsheet.Proofs.Sheet.Change
import Spreadsheet.Session.Performing

/-!
# What a request does to a session

Every request has one of a few effects on the sheet and on the mark that it was
changed, whether it succeeds or fails.  Those that fail keep both but for
three: of several edits the earlier ones stay, the rows stay frozen when the
columns to freeze are refused, and a selection that cannot be told stays.

Results: what becomes of the first of several edits (`updateStep_of_cons`),
typing into several cells makes the edits of some front part of the list
(`update_effect`), and every request has one of the effects (`perform_effect`).
-/

namespace Spreadsheet

namespace Attempt

section Lemmas

variable {ε σ α β : Type} {s t : σ} {outcome : Except ε β}

/-- What is done one after the other fails in the first part, or goes on from
what that leaves. -/
theorem bind_cases
    {x : Attempt ε σ α} {next : α → Attempt ε σ β}
    (h : (x >>= next) s = (outcome, t)) :
    (∃ fault, x s = (.error fault, t) ∧ outcome = .error fault)
      ∨ ∃ a u, x s = (.ok a, u) ∧ next a u = (outcome, t) := by
  rcases hx : x s with ⟨result, u⟩
  cases result with
  | error fault =>
      rw [bind_of_error hx] at h
      obtain ⟨rfl, rfl⟩ := Prod.mk.inj h
      exact .inl ⟨fault, rfl, rfl⟩
  | ok a =>
      rw [bind_of_ok hx] at h
      exact .inr ⟨a, u, rfl, h⟩

/-- What depends on the outcome of equal actions only is the same. -/
theorem bind_congr_at
    {x y : Attempt ε σ α}
    (h : x s = y s)
    (next : α → Attempt ε σ β) :
    (x >>= next) s = (y >>= next) s := by
  simp only [bind, ExceptT.bind, ExceptT.mk, StateT.bind, h]

theorem get_bind
    (next : σ → Attempt ε σ β) (s : σ) :
    ((get : Attempt ε σ σ) >>= next) s = next s s := rfl

theorem modify_apply
    (f : σ → σ) (s : σ) :
    (modify f : Attempt ε σ PUnit) s = (.ok (), f s) := rfl

theorem lift_apply
    (x : Except ε α) (s : σ) :
    (liftM x : Attempt ε σ α) s = (x, s) := by
  cases x <;> rfl

/-- What only tells of a result and keeps the state has the outcome of what is
told of. -/
theorem bind_telling_cases
    {x : Attempt ε σ α} {next : α → Attempt ε σ β}
    (hnext : ∀ a u, ∃ b, next a u = (.ok b, u))
    (h : (x >>= next) s = (outcome, t)) :
    ∃ outcome', x s = (outcome', t)
      ∧ ∀ fault, outcome = .error fault → outcome' = .error fault := by
  rcases bind_cases h with ⟨fault, hx, rfl⟩ | ⟨a, u, hx, hlast⟩
  · exact ⟨_, hx, fun _ hfault => by rw [Except.error.inj hfault]⟩
  · obtain ⟨b, hb⟩ := hnext a u
    obtain ⟨rfl, rfl⟩ := Prod.mk.inj (hb.symm.trans hlast)
    exact ⟨_, hx, fun _ hfault => by cases hfault⟩

/-- A computation without a state fails, or what follows begins where it
began. -/
theorem lift_bind_cases
    {x : Except ε α} {next : α → Attempt ε σ β}
    (h : ((liftM x : Attempt ε σ α) >>= next) s = (outcome, t)) :
    (∃ fault, x = .error fault ∧ outcome = .error fault ∧ t = s)
      ∨ ∃ a, x = .ok a ∧ next a s = (outcome, t) := by
  rcases bind_cases h with ⟨fault, hx, houtcome⟩ | ⟨a, u, hx, hnext⟩
  · rw [lift_apply] at hx
    obtain ⟨hfault, rfl⟩ := Prod.mk.inj hx
    exact .inl ⟨fault, hfault, houtcome, rfl⟩
  · rw [lift_apply] at hx
    obtain ⟨ha, rfl⟩ := Prod.mk.inj hx
    exact .inr ⟨a, ha, hnext⟩

end Lemmas

end Attempt

namespace CellEdit

/-- The position that an edit is made at; none if its label names none. -/
def place (edit : CellEdit) : Except Fault (Option Reference) := do
  return (position (← edit.label)).toOption

/-- The label of the edit names a position. -/
def isNamed (edit : CellEdit) : Bool :=
  match edit.place with
  | .ok (some _) => true
  | _ => false

section Lemmas

variable {edit : CellEdit} {label : String} {r : Reference} {fault : Fault}

theorem place_eq_ok_some
    (hlabel : edit.label = .ok label)
    (h : position label = .ok r) :
    edit.place = .ok (some r) := by
  rw [place, hlabel]
  exact congrArg (Except.ok ·.toOption) h

theorem place_eq_ok_none
    (hlabel : edit.label = .ok label)
    (h : position label = .error fault) :
    edit.place = .ok none := by
  rw [place, hlabel]
  exact congrArg (Except.ok ·.toOption) h

theorem place_eq_error
    (hlabel : edit.label = .error fault) :
    edit.place = .error fault := by
  rw [place, hlabel]
  rfl

theorem position_of_place
    (h : edit.place = .ok (some r)) :
    ∃ label, edit.label = .ok label ∧ position label = .ok r := by
  obtain ⟨label, hlabel, h⟩ := bind_eq_ok_iff.1 h
  refine ⟨label, hlabel, ?_⟩
  cases hposition : position label with
  | error fault =>
      rw [hposition] at h
      cases h
  | ok found =>
      rw [hposition] at h
      cases h
      rfl

theorem isNamed_of_place
    (h : edit.place = .ok (some r)) :
    edit.isNamed = true := by
  rw [isNamed, h]

theorem not_isNamed_of_place
    (h : edit.place = .ok none) :
    edit.isNamed = false := by
  rw [isNamed, h]

end Lemmas

end CellEdit

/-- A number of rows or columns that can be frozen. -/
def View.accepts (count : Number) : Bool := !count.less (.int 0) && (frozenCount count).isOk

theorem View.accepts_iff
    {count : Number} :
    accepts count = true
      ↔ count.less (.int 0) = false ∧ ∃ n, frozenCount count = .ok n := by
  unfold accepts
  cases frozenCount count <;> simp [Except.isOk, Except.toBool]

/-- The request freezes rows and then fails to freeze columns. -/
def Request.isHalfFreeze : Request → Bool
  | .freeze (some rows) (some cols) => View.accepts rows && !View.accepts cols
  | _ => false

namespace Sheet

/-- Edits typed into a sheet one after the other; those whose labels name no
position are passed over. -/
inductive Types : Sheet → List CellEdit → Sheet → Prop
  | nil
      {s : Sheet} :
      Types s [] s
  | pass
      {s s' : Sheet} {edit : CellEdit} {edits : List CellEdit}
      (hplace : edit.place = .ok none)
      (h : Types s edits s') :
      Types s (edit :: edits) s'
  | enter
      {s s' : Sheet} {edit : CellEdit} {edits : List CellEdit} {r : Reference}
      {outcome : Outcome (Option Cell)}
      (hplace : edit.place = .ok (some r))
      (hmake : Session.makeEdit s r edit = .ok outcome)
      (h : Types outcome.sheet edits s') :
      Types s (edit :: edits) s'

/-- Why typing stopped behind some edits and in front of others: the next one
has no label or is refused, or the last one cannot be shown. -/
inductive Stops (today : Date) (s : Sheet) (fault : Fault) :
    List CellEdit → List CellEdit → Prop
  | unlabelled
      {edits later : List CellEdit} {edit : CellEdit}
      (hplace : edit.place = .error fault) :
      Stops today s fault edits (edit :: later)
  | refused
      {edits later : List CellEdit} {edit : CellEdit} {r : Reference}
      (hplace : edit.place = .ok (some r))
      (hmake : Session.makeEdit s r edit = .error fault) :
      Stops today s fault edits (edit :: later)
  | unshown
      {earlier later : List CellEdit} {edit : CellEdit} {r : Reference}
      (hplace : edit.place = .ok (some r))
      (hentry : Session.entryAt s today r = .error fault) :
      Stops today s fault (earlier ++ [edit]) later

theorem Stops.unshown_first
    {today : Date} {s : Sheet} {fault : Fault} {edit : CellEdit} {later : List CellEdit}
    {r : Reference}
    (hplace : edit.place = .ok (some r))
    (hentry : Session.entryAt s today r = .error fault) :
    Stops today s fault [edit] later := by
  rw [← List.nil_append [edit]]
  exact .unshown hplace hentry

theorem Stops.cons
    {today : Date} {s : Sheet} {fault : Fault} {edits later : List CellEdit}
    (edit : CellEdit)
    (h : Stops today s fault edits later) :
    Stops today s fault (edit :: edits) later := by
  cases h with
  | unlabelled hplace => exact .unlabelled hplace
  | refused hplace hmake => exact .refused hplace hmake
  | @unshown earlier _ _ _ hplace hentry =>
      rw [← List.cons_append]
      exact .unshown hplace hentry

/-- A step back or forth among the edits that finds none keeps the sheet, and
none changes the selection. -/
theorem edit_eq_ok
    {s : Sheet} {step : Option (Edit × Grid)} {event : Edit → Except Fault Event}
    {o : Outcome Bool}
    (h : (match step with
      | none => return ⟨false, s, []⟩
      | some (e, grid) => do return ⟨true, { s with grid := grid }, [← event e]⟩) = Except.ok o) :
    (o.result = false → o.sheet = s) ∧ o.sheet.selection = s.selection := by
  cases step with
  | none =>
      obtain rfl := Except.ok.inj h
      exact ⟨fun _ => rfl, rfl⟩
  | some edit =>
      obtain ⟨event, -, h⟩ := bind_eq_ok_iff.1 h
      obtain rfl := Except.ok.inj h
      exact ⟨fun hresult => (by cases hresult), rfl⟩

/-- What freezes rows or columns takes the counts that can be frozen, and keeps
the selection. -/
structure Freezes (f : Sheet → Number → Except Fault Sheet) : Prop where
  exists_iff {s : Sheet} {count : Number} :
    (∃ t, f s count = .ok t) ↔ ∃ n, View.frozenCount count = .ok n
  selection {s t : Sheet} {count : Number} :
    f s count = .ok t → t.selection = s.selection

theorem freezes_of_view
    {set : View → Number → Except Fault View}
    (hset : ∀ v count, (∃ w, set v count = .ok w) ↔ ∃ n, View.frozenCount count = .ok n) :
    Freezes fun s count => do return { s with view := ← set s.view count } := by
  constructor
  case exists_iff =>
    intro s count
    rw [← hset s.view count]
    cases set s.view count <;> simp [bind, Except.bind, pure, Except.pure]
  case selection =>
    intro s t count h
    obtain ⟨view, -, h⟩ := bind_eq_ok_iff.1 h
    obtain rfl := Except.ok.inj h
    rfl

theorem freezes_setFrozenRows :
    Freezes setFrozenRows :=
  freezes_of_view fun v count => by
    rw [View.setFrozenRows]
    cases View.frozenCount count <;> simp [bind, Except.bind, pure, Except.pure]

theorem freezes_setFrozenColumns :
    Freezes setFrozenColumns :=
  freezes_of_view fun v count => by
    rw [View.setFrozenColumns]
    cases View.frozenCount count <;> simp [bind, Except.bind, pure, Except.pure]

theorem selection_of_resizeColumn
    {s : Sheet} {col : Int} {width : Number} {resized : Int × Sheet}
    (h : s.resizeColumn col width = .ok resized) :
    resized.2.selection = s.selection := by
  obtain ⟨_, -, h⟩ := bind_eq_ok_iff.1 h
  obtain rfl := Except.ok.inj h
  rfl

theorem selection_of_setHidden
    {s t : Sheet} {col : Int} {hidden : Bool}
    (h : s.setHidden col hidden = .ok t) :
    t.selection = s.selection := by
  obtain ⟨_, -, h⟩ := bind_eq_ok_iff.1 h
  obtain rfl := Except.ok.inj h
  rfl

/-- A selection that comes of a request. -/
inductive Selects (s : Sheet) : Option Selection → Prop
  | same :
      Selects s s.selection
  | start
      {label : String} {r : Reference}
      (hlabel : position label = .ok r) :
      Selects s (some (.single r.col r.row))
  | extend
      {label : String} {r : Reference}
      (hlabel : position label = .ok r) :
      Selects s (some (.extend s.selection r.col r.row))
  | move
      {t : Selection}
      (ht : s.selection = some t)
      (dcol drow : Int) (columns : Nat) :
      Selects s (some (t.moved dcol drow columns s.rowCount))

theorem exists_selects_of_moveSelection
    {s t : Sheet} {dcol drow : Int}
    (h : s.moveSelection dcol drow = .ok t) :
    ∃ selection, s.Selects selection ∧ t = { s with selection := selection } := by
  cases hselection : s.selection with
  | none =>
      rw [moveSelection, hselection] at h
      obtain rfl := Except.ok.inj h
      exact ⟨_, .same, rfl⟩
  | some old =>
      rw [moveSelection, hselection] at h
      obtain ⟨columns, -, h⟩ := bind_eq_ok_iff.1 h
      obtain rfl := Except.ok.inj h
      exact ⟨_, .move hselection dcol drow columns, rfl⟩

end Sheet

namespace Session

/-- The sheet and its mark are as they were; the files may be others. -/
structure Keeps (s s' : Session) : Prop where
  sheet : s'.sheet = s.sheet
  dirty : s'.dirty = s.dirty

/-- What a request can do to a session. -/
inductive Effect (m : Moment) (s : Session) :
    Request → Except Fault Response → Session → Prop
  | kept
      {request : Request} {outcome : Except Fault Response} {s' : Session}
      (h : s.Keeps s') :
      Effect m s request outcome s'
  | changed
      {request : Request} {response : Response} {s' : Session}
      (hdirty : s'.dirty = true)
      (hselection : ∀ t ∈ s'.sheet.selection, t ∈ s.sheet.selection) :
      Effect m s request (.ok response) s'
  | selected
      {request : Request} {outcome : Except Fault Response} {s' : Session}
      {selection : Option Selection}
      (hselects : s.sheet.Selects selection)
      (hsheet : s'.sheet = { s.sheet with selection := selection })
      (hdirty : s'.dirty = s.dirty)
      (htold : ∀ fault, outcome = .error fault → selectionEntry s'.sheet = .error fault) :
      Effect m s request outcome s'
  | typed
      {edits done rest : List CellEdit} {outcome : Except Fault Response} {s' : Session}
      (hedits : edits = done ++ rest)
      (htypes : s.sheet.Types done s'.sheet)
      (hdirty : s'.dirty = (s.dirty || done.any CellEdit.isNamed))
      (hstops : ∀ fault, outcome = .error fault → s'.sheet.Stops m.today fault done rest) :
      Effect m s (.update edits) outcome s'
  | halfFrozen
      {rows cols : Number} {fault : Fault} {s' : Session}
      (hrows : View.accepts rows = true)
      (hcols : View.accepts cols = false)
      (hsheet : s.sheet.setFrozenRows rows = .ok s'.sheet)
      (hdirty : s'.dirty = s.dirty) :
      Effect m s (.freeze (some rows) (some cols)) (.error fault) s'
  | saved
      {response : Response} {s' : Session}
      (hsheet : s'.sheet = s.sheet)
      (hdirty : s'.dirty = false) :
      Effect m s .save (.ok response) s'

section Effects

variable {m : Moment} {s s' : Session}

theorem Keeps.refl
    (s : Session) :
    s.Keeps s :=
  ⟨rfl, rfl⟩

/-- The session with the sheet of an outcome, whose events are logged. -/
def applied {α : Type} (s : Session) (m : Moment) (o : Outcome α) : Session :=
  { s with
    files := s.files.logAll s.folder m.stamp o.events
    sheet := o.sheet }

theorem applyOutcome_apply
    {α : Type} (s : Session) (m : Moment) (o : Outcome α) :
    applyOutcome m o s = (.ok o.result, s.applied m o) := rfl

theorem markDirty_apply
    (s : Session) :
    markDirty s = (.ok (), { s with dirty := true }) := rfl

/-- An edit is made, and then the later ones are. -/
theorem update_cons_of_place
    {edit : CellEdit} {edits : List CellEdit} {r : Reference}
    (hplace : edit.place = .ok (some r)) :
    update m (edit :: edits) s
      = (do
        let entered ← (liftM (makeEdit s.sheet r edit) : Action (Outcome (Option Cell)))
        let _ ← applyOutcome m entered
        markDirty
        let entry ← (liftM (entryAt (← get).sheet m.today r) : Action CellEntry)
        let (refused, cells) ← update m edits
        return (refused, entry :: cells) : Action (List String × List CellEntry)) s := by
  obtain ⟨label, hlabel, hposition⟩ := CellEdit.position_of_place hplace
  rw [update, hlabel, Attempt.bind_of_ok (Attempt.lift_apply _ s), hposition]
  rfl

/-- What becomes of the first of several edits: typing fails there, or goes on
with the later edits from what this one leaves. -/
inductive UpdateStep (m : Moment) (s : Session) (edit : CellEdit) (edits : List CellEdit) :
    Except Fault (List String × List CellEntry) → Session → Prop
  | unlabelled
      {fault : Fault}
      (hplace : edit.place = .error fault) :
      UpdateStep m s edit edits (.error fault) s
  | passed
      {outcome outcome' : Except Fault (List String × List CellEntry)} {s' : Session}
      (hplace : edit.place = .ok none)
      (hrest : update m edits s = (outcome', s'))
      (hfaults : ∀ fault, outcome = .error fault → outcome' = .error fault) :
      UpdateStep m s edit edits outcome s'
  | refused
      {r : Reference} {fault : Fault}
      (hplace : edit.place = .ok (some r))
      (hmake : makeEdit s.sheet r edit = .error fault) :
      UpdateStep m s edit edits (.error fault) s
  | unshown
      {r : Reference} {o : Outcome (Option Cell)} {fault : Fault}
      (hplace : edit.place = .ok (some r))
      (hmake : makeEdit s.sheet r edit = .ok o)
      (hentry : entryAt o.sheet m.today r = .error fault) :
      UpdateStep m s edit edits (.error fault) { s.applied m o with dirty := true }
  | made
      {r : Reference} {o : Outcome (Option Cell)}
      {outcome outcome' : Except Fault (List String × List CellEntry)} {s' : Session}
      (hplace : edit.place = .ok (some r))
      (hmake : makeEdit s.sheet r edit = .ok o)
      (hrest : update m edits { s.applied m o with dirty := true } = (outcome', s'))
      (hfaults : ∀ fault, outcome = .error fault → outcome' = .error fault) :
      UpdateStep m s edit edits outcome s'

theorem updateStep_of_place
    {edit : CellEdit} {edits : List CellEdit} {r : Reference}
    {outcome : Except Fault (List String × List CellEntry)}
    (hplace : edit.place = .ok (some r))
    (h : update m (edit :: edits) s = (outcome, s')) :
    UpdateStep m s edit edits outcome s' := by
  rw [update_cons_of_place hplace] at h
  rcases Attempt.lift_bind_cases h with ⟨fault, hmake, rfl, rfl⟩ | ⟨o, hmake, h⟩
  · exact .refused hplace hmake
  -- From here on the edit is made, and the session is marked.
  rw [Attempt.bind_of_ok (applyOutcome_apply s m o), Attempt.bind_of_ok (markDirty_apply _),
    Attempt.get_bind] at h
  rcases Attempt.lift_bind_cases h with ⟨fault, hentry, rfl, rfl⟩ | ⟨entry, hentry, h⟩
  · exact .unshown hplace hmake hentry
  obtain ⟨outcome', hrest, hfaults⟩ := Attempt.bind_telling_cases (fun _ _ => ⟨_, rfl⟩) h
  exact .made hplace hmake hrest hfaults

theorem updateStep_of_cons
    {edit : CellEdit} {edits : List CellEdit}
    {outcome : Except Fault (List String × List CellEntry)}
    (h : update m (edit :: edits) s = (outcome, s')) :
    UpdateStep m s edit edits outcome s' := by
  cases hlabel : edit.label with
  | error fault =>
      rw [update, hlabel, Attempt.bind_of_error (Attempt.lift_apply _ s)] at h
      obtain ⟨rfl, rfl⟩ := Prod.mk.inj h
      exact .unlabelled (CellEdit.place_eq_error hlabel)
  | ok label =>
      cases hposition : position label with
      | error fault =>
          rw [update, hlabel, Attempt.bind_of_ok (Attempt.lift_apply _ s), hposition] at h
          obtain ⟨outcome', hrest, hfaults⟩ :=
            Attempt.bind_telling_cases (fun _ _ => ⟨_, rfl⟩) h
          exact .passed (CellEdit.place_eq_ok_none hlabel hposition) hrest hfaults
      | ok r => exact updateStep_of_place (CellEdit.place_eq_ok_some hlabel hposition) h

/-- Typing into several cells makes the edits of a front part of the list: of
all of it, or up to where it fails. -/
theorem update_effect
    {edits : List CellEdit} {outcome : Except Fault (List String × List CellEntry)}
    (h : update m edits s = (outcome, s')) :
    ∃ done rest, edits = done ++ rest
      ∧ s.sheet.Types done s'.sheet
      ∧ s'.dirty = (s.dirty || done.any CellEdit.isNamed)
      ∧ ∀ fault, outcome = .error fault → s'.sheet.Stops m.today fault done rest := by
  induction edits generalizing s outcome with
  | nil =>
      obtain ⟨rfl, rfl⟩ := Prod.mk.inj h
      exact ⟨[], [], rfl, .nil, by simp, fun fault hfault => by cases hfault⟩
  | cons edit edits ih =>
      cases updateStep_of_cons h with
      | unlabelled hplace =>
          refine ⟨[], edit :: edits, rfl, .nil, by simp, ?_⟩
          rintro fault ⟨⟩
          exact .unlabelled hplace
      | refused hplace hmake =>
          refine ⟨[], edit :: edits, rfl, .nil, by simp, ?_⟩
          rintro fault ⟨⟩
          exact .refused hplace hmake
      | unshown hplace hmake hentry =>
          refine ⟨[edit], edits, rfl, .enter hplace hmake .nil, ?_, ?_⟩
          · simp [CellEdit.isNamed_of_place hplace]
          · rintro fault ⟨⟩
            exact Sheet.Stops.unshown_first hplace hentry
      | passed hplace hrest hfaults =>
          obtain ⟨done, rest, rfl, htypes, hdirty, hstops⟩ := ih hrest
          refine ⟨edit :: done, rest, rfl, .pass hplace htypes, ?_, ?_⟩
          · simp [hdirty, CellEdit.not_isNamed_of_place hplace]
          · exact fun fault hfault => (hstops fault (hfaults fault hfault)).cons edit
      | made hplace hmake hrest hfaults =>
          obtain ⟨done, rest, rfl, htypes, hdirty, hstops⟩ := ih hrest
          refine ⟨edit :: done, rest, rfl, .enter hplace hmake htypes, ?_, ?_⟩
          · simp [hdirty, CellEdit.isNamed_of_place hplace]
          · exact fun fault hfault => (hstops fault (hfaults fault hfault)).cons edit

theorem Effect.of_lift
    {α : Type} {x : Except Fault α} {next : α → Action Response} {request : Request}
    {outcome : Except Fault Response}
    (h : ((liftM x : Action α) >>= next) s = (outcome, s'))
    (hnext : ∀ a, x = .ok a → next a s = (outcome, s') → Effect m s request outcome s') :
    Effect m s request outcome s' := by
  rcases Attempt.lift_bind_cases h with ⟨fault, -, rfl, rfl⟩ | ⟨a, ha, h⟩
  · exact .kept (.refl _)
  · exact hnext a ha h

theorem timeline_effect
    {f : Sheet → Except Fault (Outcome Bool)} {request : Request}
    {outcome : Except Fault Response}
    (hresult : ∀ o, f s.sheet = .ok o →
      (o.result = false → o.sheet = s.sheet) ∧ o.sheet.selection = s.sheet.selection)
    (h : timeline m f s = (outcome, s')) :
    Effect m s request outcome s' := by
  rw [timeline, Attempt.get_bind] at h
  refine Effect.of_lift h fun o ho h => ?_
  obtain ⟨hsame, hselection⟩ := hresult o ho
  rw [Attempt.bind_of_ok (applyOutcome_apply s m o)] at h
  cases hdone : o.result with
  | false =>
      rw [hdone] at h
      obtain ⟨rfl, rfl⟩ := Prod.mk.inj h
      exact .kept ⟨hsame hdone, rfl⟩
  | true =>
      rw [hdone] at h
      obtain ⟨rfl, rfl⟩ := Prod.mk.inj h
      exact .changed rfl (by simp [applied, hselection])

theorem restructure_effect
    {op : Restructuring} {index : Int} {refusal : Option Rejection} {request : Request}
    {outcome : Except Fault Response}
    (h : restructure m op index refusal s = (outcome, s')) :
    Effect m s request outcome s' := by
  rw [restructure, Attempt.get_bind] at h
  refine Effect.of_lift h fun o ho h => ?_
  rw [Attempt.bind_of_ok (applyOutcome_apply s m o)] at h
  have hselection := Sheet.selection_of_restructure ho
  obtain ⟨result, sheet, events⟩ := o
  cases result with
  | true =>
      obtain ⟨rfl, rfl⟩ := Prod.mk.inj h
      exact .changed rfl hselection
  | false =>
      cases refusal with
      | none =>
          obtain ⟨rfl, rfl⟩ := Prod.mk.inj h
          exact .changed rfl hselection
      | some cause =>
          obtain ⟨rfl, rfl⟩ := Prod.mk.inj h
          exact .kept ⟨Sheet.sheet_of_refused ho, rfl⟩

theorem select_effect
    {f : Sheet → Except Fault Sheet} {request : Request} {outcome : Except Fault Response}
    (hselects : ∀ sheet, f s.sheet = .ok sheet →
      ∃ selection, s.sheet.Selects selection ∧ sheet = { s.sheet with selection := selection })
    (h : select f s = (outcome, s')) :
    Effect m s request outcome s' := by
  rw [select, Attempt.get_bind] at h
  refine Effect.of_lift h fun sheet hsheet h => ?_
  obtain ⟨selection, hselection, hsame⟩ := hselects sheet hsheet
  rw [Attempt.bind_of_ok (Attempt.modify_apply _ s), Attempt.get_bind] at h
  rcases Attempt.lift_bind_cases h with ⟨fault, hentry, rfl, rfl⟩ | ⟨entry, hentry, h⟩
  · refine .selected hselection hsame rfl fun other hother => ?_
    rw [← Except.error.inj hother]
    exact hentry
  · obtain ⟨rfl, rfl⟩ := Prod.mk.inj h
    exact .selected hselection hsame rfl fun other hother => by cases hother

theorem change_cases
    {f : Sheet → Except Fault Sheet} {outcome : Except Fault Unit}
    (h : change f s = (outcome, s')) :
    (∃ fault, outcome = .error fault ∧ s' = s)
      ∨ ∃ sheet, outcome = .ok () ∧ f s.sheet = .ok sheet
        ∧ s' = { s with sheet := sheet, dirty := true } := by
  rw [change, Attempt.get_bind] at h
  rcases Attempt.lift_bind_cases h with ⟨fault, -, rfl, rfl⟩ | ⟨sheet, hf, h⟩
  · exact .inl ⟨fault, rfl, rfl⟩
  · obtain ⟨rfl, rfl⟩ := Prod.mk.inj h
    exact .inr ⟨sheet, rfl, hf, rfl⟩

/-- Freezing changes nothing if the count is refused, and the sheet if it is
accepted. -/
theorem freezeSome_cases
    {cause : Rejection} {f : Sheet → Number → Except Fault Sheet} {given : Option Number}
    {outcome : Except Fault Unit}
    (hf : Sheet.Freezes f)
    (h : freezeSome cause f given s = (outcome, s')) :
    (∃ fault count, outcome = .error fault ∧ given = some count
        ∧ View.accepts count = false ∧ s' = s)
      ∨ (outcome = .ok () ∧ given = none ∧ s' = s)
      ∨ ∃ count sheet, outcome = .ok () ∧ given = some count ∧ View.accepts count = true
        ∧ f s.sheet count = .ok sheet ∧ s' = { s with sheet := sheet } := by
  cases given with
  | none =>
      obtain ⟨rfl, rfl⟩ := Prod.mk.inj h
      exact .inr (.inl ⟨rfl, rfl, rfl⟩)
  | some count =>
      rw [freezeSome] at h
      cases hnegative : count.less (.int 0) with
      | true =>
          rw [hnegative] at h
          obtain ⟨rfl, rfl⟩ := Prod.mk.inj h
          exact .inl ⟨_, count, rfl, rfl, by simp [View.accepts, hnegative], rfl⟩
      | false =>
          rw [hnegative] at h
          have h : ((liftM (f s.sheet count) : Action Sheet)
              >>= fun sheet => modify fun t => { t with sheet := sheet }) s = (outcome, s') := h
          rcases Attempt.lift_bind_cases h with ⟨fault, hfault, rfl, rfl⟩ | ⟨sheet, hsheet, h⟩
          · refine .inl ⟨fault, count, rfl, rfl, Bool.eq_false_iff.2 fun haccepts => ?_, rfl⟩
            obtain ⟨t, ht⟩ := hf.exists_iff.2 (View.accepts_iff.1 haccepts).2
            cases hfault.symm.trans ht
          · obtain ⟨rfl, rfl⟩ := Prod.mk.inj h
            have haccepts := View.accepts_iff.2 ⟨hnegative, hf.exists_iff.1 ⟨sheet, hsheet⟩⟩
            exact .inr (.inr ⟨count, sheet, rfl, rfl, haccepts, hsheet, rfl⟩)

theorem selection_of_freezeSome
    {cause : Rejection} {f : Sheet → Number → Except Fault Sheet} {given : Option Number}
    {outcome : Except Fault Unit}
    (hf : Sheet.Freezes f)
    (h : freezeSome cause f given s = (outcome, s')) :
    s'.sheet.selection = s.sheet.selection := by
  rcases freezeSome_cases hf h with
    ⟨_, _, -, -, -, rfl⟩ | ⟨-, -, rfl⟩ | ⟨_, sheet, -, -, -, hsheet, rfl⟩
  · rfl
  · rfl
  · exact hf.selection hsheet

theorem freeze_effect
    {rows cols : Option Number} {outcome : Except Fault Response}
    (h : perform m (.freeze rows cols) s = (outcome, s')) :
    Effect m s (.freeze rows cols) outcome s' := by
  rw [perform, Attempt.get_bind] at h
  rcases Attempt.bind_cases h with ⟨fault, hrows, rfl⟩ | ⟨_, t, hrows, h⟩
  · rcases freezeSome_cases Sheet.freezes_setFrozenRows hrows with
      ⟨_, _, -, -, -, rfl⟩ | ⟨hok, -⟩ | ⟨_, _, hok, -⟩
    · exact .kept (.refl _)
    · cases hok
    · cases hok
  rcases Attempt.bind_cases h with ⟨fault, hcols, rfl⟩ | ⟨_, u, hcols, h⟩
  · rcases freezeSome_cases Sheet.freezes_setFrozenColumns hcols with
      ⟨_, cols, -, rfl, hrefuses, rfl⟩ | ⟨hok, -⟩ | ⟨_, _, hok, -⟩
    · rcases freezeSome_cases Sheet.freezes_setFrozenRows hrows with
        ⟨_, _, hfault, -⟩ | ⟨-, -, rfl⟩ | ⟨rows, sheet, -, rfl, haccepts, hsheet, rfl⟩
      · cases hfault
      · exact .kept (.refl _)
      · exact .halfFrozen haccepts hrefuses hsheet rfl
    · cases hok
    · cases hok
  · have hselection : u.sheet.selection = s.sheet.selection :=
      (selection_of_freezeSome Sheet.freezes_setFrozenColumns hcols).trans
        (selection_of_freezeSome Sheet.freezes_setFrozenRows hrows)
    obtain ⟨rfl, rfl⟩ := Prod.mk.inj h
    exact .changed rfl (by simp [hselection])

theorem onFiles_keeps
    {α : Type} {action : FileAction α} {outcome : Except Fault α}
    (h : onFiles action s = (outcome, s')) :
    s.Keeps s' := by
  obtain ⟨-, rfl⟩ := Prod.mk.inj h
  exact ⟨rfl, rfl⟩

theorem save_effect
    {outcome : Except Fault Unit}
    (h : save m s = (outcome, s')) :
    (∃ fault, outcome = .error fault ∧ s.Keeps s')
      ∨ outcome = .ok () ∧ s'.sheet = s.sheet ∧ s'.dirty = false := by
  rw [save, Attempt.get_bind] at h
  rcases Attempt.bind_cases h with ⟨fault, hfiles, rfl⟩ | ⟨_, t, hfiles, h⟩
  · exact .inl ⟨fault, rfl, onFiles_keeps hfiles⟩
  · obtain ⟨rfl, rfl⟩ := Prod.mk.inj h
    exact .inr ⟨rfl, (onFiles_keeps hfiles).sheet, rfl⟩

theorem keeps_of_lift
    {α β : Type} {x : Except Fault α} {next : α → Action β} {outcome : Except Fault β}
    (hnext : ∀ a outcome s', next a s = (outcome, s') → s.Keeps s')
    (h : ((liftM x : Action α) >>= next) s = (outcome, s')) :
    s.Keeps s' := by
  rcases Attempt.lift_bind_cases h with ⟨fault, -, -, rfl⟩ | ⟨a, -, h⟩
  · exact .refl s'
  · exact hnext a _ _ h

theorem exportText_keeps
    {delimiter : Option String} {outcome : Except Fault String}
    (h : exportText m delimiter s = (outcome, s')) :
    s.Keeps s' := by
  cases delimiter with
  | none =>
      unfold exportText at h
      dsimp only at h
      rw [Attempt.get_bind] at h
      refine keeps_of_lift (fun _ _ _ h => ?_) h
      obtain ⟨-, rfl⟩ := Prod.mk.inj h
      exact ⟨rfl, rfl⟩
  | some d =>
      rw [exportText] at h
      by_cases hlength : d.length = 1
      · simp only [hlength, ne_eq, not_true_eq_false, if_false] at h
        rw [Attempt.get_bind] at h
        refine keeps_of_lift (fun _ _ _ h => ?_) h
        obtain ⟨-, rfl⟩ := Prod.mk.inj h
        exact ⟨rfl, rfl⟩
      · simp only [hlength, ne_eq, not_false_eq_true, if_true] at h
        obtain ⟨-, rfl⟩ := Prod.mk.inj h
        exact .refl _

theorem Effect.of_pure
    {response : Response} {request : Request} {outcome : Except Fault Response}
    (h : (pure response : Action Response) s = (outcome, s')) :
    Effect m s request outcome s' := by
  obtain ⟨rfl, rfl⟩ := Prod.mk.inj h
  exact .kept (.refl _)

theorem perform_update
    {edits : List CellEdit} {outcome : Except Fault Response}
    (h : perform m (.update edits) s = (outcome, s')) :
    ∃ done rest, edits = done ++ rest
      ∧ s.sheet.Types done s'.sheet
      ∧ s'.dirty = (s.dirty || done.any CellEdit.isNamed)
      ∧ ∀ fault, outcome = .error fault → s'.sheet.Stops m.today fault done rest := by
  rw [perform, Attempt.get_bind] at h
  obtain ⟨outcome', h, hfaults⟩ := Attempt.bind_telling_cases (fun _ _ => ⟨_, rfl⟩) h
  obtain ⟨done, rest, hedits, htypes, hdirty, hstops⟩ := update_effect h
  exact ⟨done, rest, hedits, htypes, hdirty,
    fun fault hfault => hstops fault (hfaults fault hfault)⟩

theorem sort_effect
    {column : ColumnName} {ascending : Bool} {outcome : Except Fault Response}
    (h : perform m (.sort column ascending) s = (outcome, s')) :
    Effect m s (.sort column ascending) outcome s' := by
  rw [perform, Attempt.get_bind] at h
  refine .of_lift h fun col _ h => ?_
  split at h
  · exact .of_lift h fun _ _ h => by
      obtain ⟨rfl, rfl⟩ := Prod.mk.inj h
      exact .kept (.refl _)
  · refine .of_lift h fun o ho h => ?_
    rw [Attempt.bind_of_ok (applyOutcome_apply s m o)] at h
    obtain ⟨rfl, rfl⟩ := Prod.mk.inj h
    have hselection : o.sheet.selection = s.sheet.selection := by rw [Sheet.sheet_of_sort ho]
    exact .changed rfl (by simp [applied, hselection])

/-- A change that keeps the selection, and that a response tells of. -/
theorem change_effect
    {f : Sheet → Except Fault Sheet} {next : Unit → Action Response} {request : Request}
    {outcome : Except Fault Response}
    (hf : ∀ sheet, f s.sheet = .ok sheet → sheet.selection = s.sheet.selection)
    (hnext : ∀ a u, ∃ response, next a u = (.ok response, u))
    (h : (change f >>= next) s = (outcome, s')) :
    Effect m s request outcome s' := by
  rcases Attempt.bind_cases h with ⟨fault, hchange, rfl⟩ | ⟨_, t, hchange, h⟩
  · rcases change_cases hchange with ⟨_, -, rfl⟩ | ⟨_, hok, -, -⟩
    · exact .kept (.refl _)
    · cases hok
  · rcases change_cases hchange with ⟨_, hfault, -⟩ | ⟨sheet, -, hsheet, rfl⟩
    · cases hfault
    · obtain ⟨response, hresponse⟩ := hnext () { s with sheet := sheet, dirty := true }
      obtain ⟨rfl, rfl⟩ := Prod.mk.inj (hresponse.symm.trans h)
      exact .changed rfl (by simp [hf sheet hsheet])

theorem saved_effect
    {outcome : Except Fault Response}
    (h : perform m .save s = (outcome, s')) :
    Effect m s .save outcome s' := by
  rw [perform, Attempt.get_bind] at h
  rcases Attempt.bind_cases h with ⟨fault, hsave, rfl⟩ | ⟨_, t, hsave, h⟩
  · rcases save_effect hsave with ⟨_, -, hkeeps⟩ | ⟨hok, -, -⟩
    · exact .kept hkeeps
    · cases hok
  · rcases save_effect hsave with ⟨_, hfault, -⟩ | ⟨-, hsheet, hdirty⟩
    · cases hfault
    · obtain ⟨rfl, rfl⟩ := Prod.mk.inj h
      exact .saved hsheet hdirty

/-- What a request does to a session is one of its effects. -/
theorem perform_effect
    {request : Request} {outcome : Except Fault Response}
    (h : perform m request s = (outcome, s')) :
    Effect m s request outcome s' := by
  have hrequest := h
  rw [perform, Attempt.get_bind] at h
  cases request with
  | viewport row col rows cols => exact .of_lift h fun _ _ h => .of_pure h
  | cell label => exact .of_lift h fun _ _ h => .of_lift h fun _ _ h => .of_pure h
  | evaluate formula => exact .of_pure h
  | update edits =>
      obtain ⟨done, rest, hedits, htypes, hdirty, hstops⟩ := perform_update hrequest
      exact .typed hedits htypes hdirty hstops
  | undo => exact timeline_effect (fun _ ho => Sheet.edit_eq_ok ho) h
  | redo => exact timeline_effect (fun _ ho => Sheet.edit_eq_ok ho) h
  | sort column ascending => exact sort_effect hrequest
  | insertRow index => exact .of_lift h fun _ _ h => restructure_effect h
  | deleteRow index => exact .of_lift h fun _ _ h => restructure_effect h
  | insertColumn index => exact .of_lift h fun _ _ h => restructure_effect h
  | deleteColumn index => exact .of_lift h fun _ _ h => restructure_effect h
  | resizeColumn col width =>
      refine .of_lift h fun _ _ h => .of_lift h fun resized hresized h => ?_
      obtain ⟨rfl, rfl⟩ := Prod.mk.inj h
      exact .changed rfl (by simp [Sheet.selection_of_resizeColumn hresized])
  | setHidden col hidden =>
      exact .of_lift h fun _ _ h =>
        change_effect (fun _ => Sheet.selection_of_setHidden) (fun _ _ => ⟨_, rfl⟩) h
  | freeze rows cols => exact freeze_effect hrequest
  | startSelection label =>
      refine .of_lift h fun r hr h => select_effect (fun sheet hsheet => ?_) h
      exact ⟨_, .start hr, (Except.ok.inj hsheet).symm⟩
  | extendSelection label =>
      refine .of_lift h fun r hr h => select_effect (fun sheet hsheet => ?_) h
      exact ⟨_, .extend hr, (Except.ok.inj hsheet).symm⟩
  | moveSelection dcol drow =>
      exact select_effect (fun _ => Sheet.exists_selects_of_moveSelection) h
  | selection => exact .of_lift h fun _ _ h => .of_pure h
  | save => exact saved_effect hrequest
  | exportText delimiter =>
      obtain ⟨_, h, -⟩ := Attempt.bind_telling_cases (fun _ _ => ⟨_, rfl⟩) h
      exact .kept (exportText_keeps h)

end Effects

end Session
end Spreadsheet
