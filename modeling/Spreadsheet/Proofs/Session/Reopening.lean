import Spreadsheet.Proofs.Session.Carrying
import Spreadsheet.Proofs.Session.Failure

/-!
# Storing a document between requests

A document may be changed request after request in one session, or be stored and
opened again after each of them.  Opened again, the rows are filled up, nothing is
selected, and no edit can be taken back; the documents are the same all the same.

One request breaks this.  A row that is deleted may be the only one as long as the
sheet is wide.  In one session the other rows are shorter, and the sheet gets
narrower; rows that were stored are as long as it was, and it stays as wide.

Results: a sheet and one that covers it are changed alike by a request
(`exists_perform_of_isMirroredBy`), what is opened from the stored text covers the
sheet (`exists_reopened`), and so requests have the same documents with and without
opening in between, if no deleted row takes columns along (`storedTexts_reopened`).
-/

namespace Spreadsheet
namespace Session

/-- The text that stores the sheet. -/
def stored : Action String := do
  (← get).sheet.write

/-- The text that stores the sheet, which is opened again from it. -/
def reopened (settings : Settings) : Action String := do
  let text ← (← get).sheet.write
  let document ← Document.parse text
  let sheet ← Sheet.ofDocument settings document
  modify fun s => { s with sheet := sheet, dirty := false }
  return text

/-- The text that stores the sheet, which is replaced by what it is stored as. -/
def refilled (settings : Settings) : Action String := do
  let text ← (← get).sheet.write
  let sheet ← Sheet.ofDocument settings (← get).sheet.document
  modify fun s => { s with sheet := sheet, dirty := false }
  return text

/-- Requests made one after the other, and the texts stored after each of them. -/
def storedTexts (store : Action String) : List (Moment × Request) → Action (List String)
  | [] => return []
  | (m, request) :: rest => do
      let _ ← perform m request
      let text ← store
      let texts ← storedTexts store rest
      return text :: texts

/-- No row that is deleted takes columns along. -/
def KeepsColumns : List (Moment × Request) → Session → Prop
  | [], _ => True
  | (m, request) :: rest, s =>
      (∀ index, request = .deleteRow index →
        (perform m request s).2.sheet.columnCount = s.sheet.columnCount)
      ∧ KeepsColumns rest (perform m request s).2

/-- No row that is deleted by a later request than the first takes columns
along. -/
def KeepsColumnsLater : List (Moment × Request) → Session → Prop
  | [], _ => True
  | (m, request) :: rest, s => KeepsColumns rest (perform m request s).2

/-- The sheet of the first session can be stored, and that of the second covers
it. -/
structure IsMirroredBy (s t : Session) : Prop where
  stored : ∃ text, s.sheet.write = .ok text
  covers : s.sheet.Covers t.sheet

/-- The sheet was opened with some settings and then changed. -/
def IsWorkedOn (settings : Settings) (s : Session) : Prop :=
  ∃ start ops, start.IsOpened settings ∧ s.sheet = Operation.run start ops

section Lemmas

variable {settings : Settings} {m : Moment} {request : Request} {s s' t : Session}

theorem IsWorkedOn.perform
    {response : Response}
    (h : s.IsWorkedOn settings)
    (hedit : request.IsEdit)
    (hperform : Session.perform m request s = (.ok response, s')) :
    s'.IsWorkedOn settings := by
  obtain ⟨start, ops, hstart, hs⟩ := h
  have hcarries := (reaches_perform_iff hedit).1 ⟨response, s', hperform, rfl⟩
  obtain ⟨ops', hops'⟩ := hcarries.exists_run
  refine ⟨start, ops ++ ops', hstart, ?_⟩
  rw [hops', hs]
  exact List.foldl_append.symm

theorem of_stored
    {text : String}
    (h : stored s = (.ok text, s')) :
    s.sheet.write = .ok text ∧ s = s' := by
  rw [stored, Attempt.get_bind, Attempt.lift_apply] at h
  obtain ⟨htext, rfl⟩ := Prod.mk.inj h
  exact ⟨htext, rfl⟩

/-- A request that succeeds in a session succeeds in one that mirrors it, and
leaves their sheets alike. -/
theorem exists_perform_of_isMirroredBy
    {response : Response}
    (hs : s.IsWorkedOn settings)
    (hst : s.IsMirroredBy t)
    (hedit : request.IsEdit)
    (hperform : perform m request s = (.ok response, s'))
    (hkept : ∀ index, request = .deleteRow index →
      s'.sheet.columnCount = s.sheet.columnCount) :
    ∃ response' t', perform m request t = (.ok response', t') ∧ s'.sheet.Alike t'.sheet := by
  have hcarries := (reaches_perform_iff hedit).1 ⟨response, s', hperform, rfl⟩
  have hrows : s.sheet.grid.rows ≠ [] := by
    obtain ⟨start, ops, hstart, hrun⟩ := hs
    rw [hrun]
    exact (Sheet.isNormal_run hstart ops).rows
  obtain ⟨text, htext⟩ := hst.stored
  obtain ⟨sheet, hcarries', halike⟩ :=
    hst.covers.carriesOut hrows (Sheet.exists_count_of_write htext) hcarries hkept
  obtain ⟨response', t', hperform', rfl⟩ := (reaches_perform_iff hedit).2 hcarries'
  exact ⟨response', t', hperform', halike⟩

/-- What is opened from the stored text of a sheet alike covers the sheet. -/
theorem exists_reopened
    {text : String}
    (hs : s.IsWorkedOn settings)
    (htext : s.sheet.write = .ok text)
    (halike : s.sheet.Alike t.sheet) :
    ∃ t', reopened settings t = (.ok text, t') ∧ s.sheet.Covers t'.sheet := by
  obtain ⟨start, ops, hstart, hrun⟩ := hs
  rw [hrun] at htext halike ⊢
  obtain ⟨d, sheet, hread, hopen, hcovers⟩ := Sheet.covers_of_write hstart htext
  refine ⟨{ t with sheet := sheet, dirty := false }, ?_, hcovers⟩
  have hwritten : (liftM t.sheet.write : Action String) t = (.ok text, t) := by
    rw [halike.write, htext, Attempt.lift_apply]
  have hparsed : (liftM (Document.parse text) : Action Document) t = (.ok d, t) := by
    rw [hread, Attempt.lift_apply]
  have hopened : (liftM (Sheet.ofDocument settings d) : Action Sheet) t = (.ok sheet, t) := by
    rw [hopen, Attempt.lift_apply]
  rw [reopened, Attempt.get_bind, Attempt.bind_of_ok hwritten, Attempt.bind_of_ok hparsed,
    Attempt.bind_of_ok hopened]
  rfl

theorem storedTexts_cons_eq_ok_iff
    {store : Action String} {rest : List (Moment × Request)} {texts : List String} :
    storedTexts store ((m, request) :: rest) s = (.ok texts, s')
      ↔ ∃ response u text u' later, perform m request s = (.ok response, u)
        ∧ store u = (.ok text, u') ∧ storedTexts store rest u' = (.ok later, s')
        ∧ texts = text :: later := by
  constructor
  · intro h
    obtain ⟨response, u, hperform, h⟩ := Attempt.bind_eq_ok_iff.1 h
    obtain ⟨text, u', hstore, h⟩ := Attempt.bind_eq_ok_iff.1 h
    obtain ⟨later, _, hlater, h⟩ := Attempt.bind_eq_ok_iff.1 h
    obtain ⟨htexts, rfl⟩ := Prod.mk.inj h
    exact ⟨response, u, text, u', later, hperform, hstore, hlater, (Except.ok.inj htexts).symm⟩
  · rintro ⟨response, u, text, u', later, hperform, hstore, hlater, rfl⟩
    rw [storedTexts, Attempt.bind_of_ok hperform, Attempt.bind_of_ok hstore,
      Attempt.bind_of_ok hlater]
    rfl

/-- Nothing of the sheet is lost when it is stored. -/
theorem reopened_eq_refilled
    (hs : s.IsWorkedOn settings) :
    reopened settings s = refilled settings s := by
  obtain ⟨start, ops, hstart, hrun⟩ := hs
  rw [reopened, refilled, Attempt.get_bind, Attempt.get_bind]
  cases hwrite : s.sheet.write with
  | error fault => rfl
  | ok text =>
      have hread : Document.parse text = .ok s.sheet.document := by
        rw [hrun] at hwrite ⊢
        exact Sheet.parse_of_write hstart hwrite
      have hwritten : (liftM (Except.ok text : Except Fault String) : Action String) s
        = (.ok text, s) := Attempt.lift_apply _ _
      have hparsed : (liftM (Document.parse text) : Action Document) s
          = (.ok s.sheet.document, s) := by
        rw [hread, Attempt.lift_apply]
      rw [Attempt.bind_of_ok hwritten, Attempt.bind_of_ok hwritten, Attempt.bind_of_ok hparsed,
        Attempt.get_bind]

theorem isWorkedOn_of_reopened
    {text : String}
    (h : reopened settings s = (.ok text, s')) :
    s'.IsWorkedOn settings := by
  rw [reopened, Attempt.get_bind] at h
  obtain ⟨_, u, -, h⟩ := Attempt.bind_eq_ok_iff.1 h
  obtain ⟨d, v, hread, h⟩ := Attempt.bind_eq_ok_iff.1 h
  obtain ⟨sheet, w, hopen, h⟩ := Attempt.bind_eq_ok_iff.1 h
  rw [Attempt.lift_apply] at hread hopen
  obtain ⟨hread, -⟩ := Prod.mk.inj hread
  obtain ⟨hopen, -⟩ := Prod.mk.inj hopen
  have hgiven : d.IsGiven := by
    unfold Document.parse at hread
    split at hread
    · exact .ofRecord hread
    · cases hread
    · cases hread
  have hs' : s'.sheet = sheet := by
    obtain ⟨-, rfl⟩ := Prod.mk.inj h
    rfl
  exact ⟨sheet, [], .given hgiven hopen, hs'⟩

/-- Requests have the same documents if nothing is read from the stored texts. -/
theorem storedTexts_reopened_eq_refilled
    {calls : List (Moment × Request)}
    (hs : s.IsWorkedOn settings)
    (hedits : ∀ call ∈ calls, call.2.IsEdit) :
    storedTexts (reopened settings) calls s = storedTexts (refilled settings) calls s := by
  induction calls generalizing s with
  | nil => rfl
  | cons call calls ih =>
      obtain ⟨m, request⟩ := call
      obtain ⟨hedit, hedits⟩ := List.forall_mem_cons.1 hedits
      rw [storedTexts, storedTexts]
      rcases hperform : perform m request s with ⟨_ | response, u⟩
      · rw [Attempt.bind_of_error hperform, Attempt.bind_of_error hperform]
      have hu := hs.perform hedit hperform
      rw [Attempt.bind_of_ok hperform, Attempt.bind_of_ok hperform,
        ← Attempt.bind_congr_at (reopened_eq_refilled hu)]
      rcases hstore : reopened settings u with ⟨_ | text, v⟩
      · rw [Attempt.bind_of_error hstore, Attempt.bind_of_error hstore]
      rw [Attempt.bind_of_ok hstore, Attempt.bind_of_ok hstore]
      exact Attempt.bind_congr_at (ih (isWorkedOn_of_reopened hstore) hedits) _

theorem storedTexts_of_isMirroredBy
    {calls : List (Moment × Request)} {texts : List String}
    (hs : s.IsWorkedOn settings)
    (hst : s.IsMirroredBy t)
    (hedits : ∀ call ∈ calls, call.2.IsEdit)
    (hcolumns : KeepsColumns calls s)
    (h : storedTexts stored calls s = (.ok texts, s')) :
    ∃ t', storedTexts (reopened settings) calls t = (.ok texts, t') ∧ s'.IsMirroredBy t' := by
  induction calls generalizing s t texts with
  | nil =>
      obtain ⟨htexts, rfl⟩ := Prod.mk.inj h
      exact ⟨t, congrArg (·, t) htexts, hst⟩
  | cons call calls ih =>
      obtain ⟨m, request⟩ := call
      obtain ⟨response, u, text, _, later, hperform, hstored, hlater, rfl⟩ :=
        storedTexts_cons_eq_ok_iff.1 h
      obtain ⟨htext, rfl⟩ := of_stored hstored
      obtain ⟨hkept, hcolumns⟩ := hcolumns
      rw [hperform] at hkept hcolumns
      have hedit : request.IsEdit := hedits (m, request) (by simp)
      have hu := hs.perform hedit hperform
      -- The request is made in the mirroring session, and its sheet opened again.
      obtain ⟨response', v, hperform', halike⟩ :=
        exists_perform_of_isMirroredBy hs hst hedit hperform hkept
      obtain ⟨v', hreopened, hcovers⟩ := exists_reopened hu htext halike
      obtain ⟨t', hlater', hmirrored⟩ := ih hu ⟨⟨text, htext⟩, hcovers⟩
        (fun call hcall => hedits call (List.mem_cons_of_mem _ hcall)) hcolumns hlater
      exact ⟨t', storedTexts_cons_eq_ok_iff.2
        ⟨response', v, text, v', later, hperform', hreopened, hlater', rfl⟩, hmirrored⟩

/-- Requests have the same documents whether the sheet is stored and opened again
after each of them or not, if no row that is deleted later takes columns along. -/
theorem storedTexts_reopened
    {calls : List (Moment × Request)} {texts : List String}
    (hs : s.sheet.IsOpened settings)
    (hedits : ∀ call ∈ calls, call.2.IsEdit)
    (hcolumns : KeepsColumnsLater calls s)
    (h : storedTexts stored calls s = (.ok texts, s')) :
    ∃ t, storedTexts (reopened settings) calls s = (.ok texts, t)
      ∧ t.sheet.write = s'.sheet.write := by
  have hwork : s.IsWorkedOn settings := ⟨s.sheet, [], hs, rfl⟩
  cases calls with
  | nil =>
      obtain ⟨htexts, rfl⟩ := Prod.mk.inj h
      exact ⟨s, congrArg (·, s) htexts, rfl⟩
  | cons call calls =>
      obtain ⟨m, request⟩ := call
      obtain ⟨response, u, text, _, later, hperform, hstored, hlater, rfl⟩ :=
        storedTexts_cons_eq_ok_iff.1 h
      obtain ⟨htext, rfl⟩ := of_stored hstored
      rw [KeepsColumnsLater, hperform] at hcolumns
      have hu := hwork.perform (hedits (m, request) (by simp)) hperform
      -- Only the first request is made on the same sheet.
      obtain ⟨v, hreopened, hcovers⟩ := exists_reopened hu htext (.refl _)
      obtain ⟨t, hlater', hmirrored⟩ := storedTexts_of_isMirroredBy hu ⟨⟨text, htext⟩, hcovers⟩
        (fun call hcall => hedits call (List.mem_cons_of_mem _ hcall)) hcolumns hlater
      exact ⟨t, storedTexts_cons_eq_ok_iff.2
        ⟨response, u, text, v, later, hperform, hreopened, hlater', rfl⟩,
        hmirrored.covers.alike.write⟩

/-- A session on a sheet in an empty folder. -/
def onSheet (sheet : Sheet) : Session :=
  ⟨Files.empty "/", ⟨true, ["sheet.json"]⟩, sheet, false⟩

/-- Settings that ask for one column. -/
def narrowSettings : Settings :=
  Settings.initial.overlay [("min_columns", .number (.int 1))]

/-- A sheet of two rows of one column. -/
def twoRows : Except Fault Sheet := do
  Sheet.ofDocument narrowSettings (← Document.blank 2 1 1 0)

/-- A text beyond the last column in the first of two rows, and then a row
deleted. -/
def longRowThenDeletion (index : Int) : List (Moment × Request) :=
  [(springDay, .update [.ofTexts "B1" (some "x")]), (springDay, .deleteRow index)]

theorem isOpened_twoRows
    {sheet : Sheet}
    (h : twoRows = .ok sheet) :
    sheet.IsOpened narrowSettings := by
  obtain ⟨d, hd, h⟩ := bind_eq_ok_iff.1 h
  exact .given (.blank hd) h

theorem isEdit_of_mem_longRowThenDeletion
    {index : Int} {call : Moment × Request}
    (h : call ∈ longRowThenDeletion index) :
    call.2.IsEdit := by
  simp only [longRowThenDeletion, List.mem_cons, List.not_mem_nil, or_false] at h
  rcases h with rfl | rfl <;> trivial

theorem storedTexts_reopened_short_row :
    ∃ (s s' : Session) (texts : List String), s.sheet.IsOpened narrowSettings
      ∧ (∀ call ∈ longRowThenDeletion 1, call.2.IsEdit)
      ∧ KeepsColumnsLater (longRowThenDeletion 1) s
      ∧ storedTexts stored (longRowThenDeletion 1) s = (.ok texts, s')
      ∧ ∃ t, storedTexts (reopened narrowSettings) (longRowThenDeletion 1) s = (.ok texts, t)
        ∧ t.sheet.write = s'.sheet.write := by
  have hsteps : (do
      let sheet ← twoRows
      let s := onSheet sheet
      let texts ← (storedTexts stored (longRowThenDeletion 1) s).1
      let long := (perform springDay (.update [.ofTexts "B1" (some "x")]) s).2
      return decide ((perform springDay (.deleteRow 1) long).2.sheet.columnCount
        = long.sheet.columnCount)) = Except.ok true := by
    decide +kernel
  obtain ⟨sheet, hsheet, hsteps⟩ := bind_eq_ok_iff.1 hsteps
  obtain ⟨texts, htexts, hsteps⟩ := bind_eq_ok_iff.1 hsteps
  have hopened := isOpened_twoRows hsheet
  have hedits : ∀ call ∈ longRowThenDeletion 1, call.2.IsEdit := fun _ =>
    isEdit_of_mem_longRowThenDeletion
  have hcolumns : KeepsColumnsLater (longRowThenDeletion 1) (onSheet sheet) := by
    refine ⟨?_, trivial⟩
    rintro _ ⟨⟩
    exact of_decide_eq_true (Except.ok.inj hsteps)
  have hstored : storedTexts stored (longRowThenDeletion 1) (onSheet sheet)
      = (.ok texts, (storedTexts stored (longRowThenDeletion 1) (onSheet sheet)).2) :=
    Prod.ext htexts rfl
  exact ⟨onSheet sheet, _, texts, hopened, hedits, hcolumns, hstored,
    storedTexts_reopened hopened hedits hcolumns hstored⟩

/-- A row that takes columns along in one session takes none along where it was
stored before. -/
theorem storedTexts_ne_of_long_row :
    ∃ (sheet : Sheet) (s' t : Session) (texts texts' : List String), twoRows = .ok sheet
      ∧ sheet.IsOpened narrowSettings
      ∧ (∀ call ∈ longRowThenDeletion 0, call.2.IsEdit)
      ∧ storedTexts stored (longRowThenDeletion 0) (onSheet sheet) = (.ok texts, s')
      ∧ storedTexts (reopened narrowSettings) (longRowThenDeletion 0) (onSheet sheet)
        = (.ok texts', t)
      ∧ texts'.getLast? ≠ texts.getLast? := by
  -- Reading the stored texts back by computation would take most of the time.
  have hsteps : (do
      let sheet ← twoRows
      let s := onSheet sheet
      let texts ← (storedTexts stored (longRowThenDeletion 0) s).1
      let texts' ← (storedTexts (refilled narrowSettings) (longRowThenDeletion 0) s).1
      return decide (texts'.getLast? ≠ texts.getLast?)) = Except.ok true := by
    decide +kernel
  obtain ⟨sheet, hsheet, hsteps⟩ := bind_eq_ok_iff.1 hsteps
  obtain ⟨texts, htexts, hsteps⟩ := bind_eq_ok_iff.1 hsteps
  obtain ⟨texts', htexts', hsteps⟩ := bind_eq_ok_iff.1 hsteps
  have hopened := isOpened_twoRows hsheet
  have hedits : ∀ call ∈ longRowThenDeletion 0, call.2.IsEdit :=
    fun _ => isEdit_of_mem_longRowThenDeletion
  have hworked : (onSheet sheet).IsWorkedOn narrowSettings := ⟨sheet, [], hopened, rfl⟩
  exact ⟨sheet, _, _, texts, texts', hsheet, hopened, hedits, Prod.ext htexts rfl,
    (storedTexts_reopened_eq_refilled hworked hedits).trans (Prod.ext htexts' rfl),
    of_decide_eq_true (Except.ok.inj hsteps)⟩

end Lemmas

end Session
end Spreadsheet
