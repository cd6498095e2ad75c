import Spreadsheet.Proofs.Session.Failure

/-!
# Sheets that are not marked as changed

A sheet that is not marked as changed is stored as it was when it was saved
last, or opened.  One request breaks this: when the rows are frozen and the
number of columns to freeze is refused, the frozen rows stay without a mark.

Results: what a request leaves unmarked it leaves as it was, but for the
selection (`Effect.sheet_of_unmarked`), and what an unmarked sheet stores is
what was stored before (`record_of_unmarked`).
-/

namespace Spreadsheet
namespace Session

/-- A session that was opened on a document and then asked for anything but to
freeze a number of rows together with a number of columns that is refused, and
its sheet as it was saved last, or opened.  The files may be changed by others in
between. -/
inductive Stored : Session → Sheet → Prop
  | opened
      {m : Moment} {path : Path} {strict : Bool} {files files' : Files} {s : Session}
      (hstart : start m path strict files = (.ok s, files')) :
      Stored s s.sheet
  | saved
      {m : Moment} {response : Response} {s s' : Session} {stored : Sheet}
      (files : Files)
      (h : Stored s stored)
      (hperform : perform m .save { s with files := files } = (.ok response, s')) :
      Stored s' s'.sheet
  | next
      {m : Moment} {request : Request} {outcome : Except Fault Response} {s s' : Session}
      {stored : Sheet}
      (files : Files)
      (h : Stored s stored)
      (hperform : perform m request { s with files := files } = (outcome, s'))
      (hsave : request = .save → ∃ fault, outcome = .error fault)
      (hfreeze : request.isHalfFreeze = false) :
      Stored s' stored

section Marks

variable {m : Moment} {s s' : Session}

theorem sheet_of_types_unnamed
    {sheet sheet' : Sheet} {edits : List CellEdit}
    (h : sheet.Types edits sheet')
    (hunnamed : edits.any CellEdit.isNamed = false) :
    sheet' = sheet := by
  induction h with
  | nil => rfl
  | pass _ _ ih =>
      rw [List.any_cons, Bool.or_eq_false_iff] at hunnamed
      exact ih hunnamed.2
  | enter hplace _ _ _ =>
      rw [List.any_cons, CellEdit.isNamed_of_place hplace] at hunnamed
      cases hunnamed

/-- What a request leaves unmarked it leaves as it was, but for the selection,
unless it saves the sheet. -/
theorem Effect.sheet_of_unmarked
    {request : Request} {outcome : Except Fault Response}
    (h : Effect m s request outcome s')
    (hfreeze : request.isHalfFreeze = false)
    (hdirty : s'.dirty = false) :
    (request = .save ∧ ∃ response, outcome = .ok response)
      ∨ s.dirty = false ∧ s'.sheet = { s.sheet with selection := s'.sheet.selection } := by
  cases h with
  | kept h => exact .inr ⟨h.dirty.symm.trans hdirty, by rw [h.sheet]⟩
  | changed hmarked => simp [hmarked] at hdirty
  | selected _ hsheet hsame => exact .inr ⟨hsame.symm.trans hdirty, by rw [hsheet]⟩
  | typed _ htypes hmark =>
      rw [hmark, Bool.or_eq_false_iff] at hdirty
      rw [sheet_of_types_unnamed htypes hdirty.2]
      exact .inr ⟨hdirty.1, rfl⟩
  | halfFrozen hrows hcols => simp [Request.isHalfFreeze, hrows, hcols] at hfreeze
  | saved => exact .inl ⟨rfl, _, rfl⟩

/-- A sheet that is not marked is the one that was saved last, but for the
selection. -/
theorem Stored.sheet_eq
    {stored : Sheet}
    (h : Stored s stored)
    (hdirty : s.dirty = false) :
    s.sheet = { stored with selection := s.sheet.selection } := by
  induction h with
  | opened => rfl
  | saved => rfl
  | next files _ hperform hsave hfreeze ih =>
      rcases (perform_effect hperform).sheet_of_unmarked hfreeze hdirty with
        ⟨hrequest, response, houtcome⟩ | ⟨hclean, hsheet⟩
      · obtain ⟨fault, hfault⟩ := hsave hrequest
        rw [hfault] at houtcome
        cases houtcome
      · rw [hsheet, ih hclean]

theorem Stored.after
    {stored : Sheet}
    (h : Stored s stored)
    (request : Request)
    (hrequest : request ≠ .save)
    (hfreeze : request.isHalfFreeze = false) :
    Stored (perform m request s).2 stored :=
  h.next s.files (Prod.ext rfl rfl) (fun hsave => absurd hsave hrequest) hfreeze

end Marks

end Session
end Spreadsheet
