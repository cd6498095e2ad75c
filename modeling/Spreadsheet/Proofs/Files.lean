import Spreadsheet.Files.Access
import Spreadsheet.Proofs.Except

/-!
# Adding to a file

Writing a text makes folders and takes none away, and so a path that leads to a place leads
to it still.  The place of the text itself does not become a folder.

Results: a path leads on to its place (`locate_write`), and a text added at the end of what
stands at a place stands there after it (`StandsAt.append`).
-/

namespace Spreadsheet
namespace Files

/-- A path leads to a place where a text can stand, and this is the text; it is empty where
nothing stands. -/
structure StandsAt (f : Files) (p place : Path) (text : String) : Prop where
  locate : f.locate p = .ok place
  hasFolder : f.hasFolder place = false
  text : (f.read? place).getD "" = text

section Lemmas

variable {f : Files} {p place q : Path} {text : String}

theorem hasFolder_write_of_hasFolder
    (h : f.hasFolder q = true)
    (p : Path) (text : String) :
    (f.write p text).hasFolder q = true := by
  simp only [hasFolder, Bool.or_eq_true, List.contains_iff_mem] at h ⊢
  rcases h with haround | hfolder
  · exact .inl haround
  · exact .inr (List.mem_append_left _ hfolder)

/-- Only folders on the way to a text are made. -/
theorem hasFolder_write_self
    (h : f.hasFolder p = false)
    (text : String) :
    (f.write p text).hasFolder p = false := by
  simp only [hasFolder, Bool.or_eq_false_iff, List.contains_eq_mem, decide_eq_false_iff_not]
    at h ⊢
  refine ⟨h.1, fun hmem => ?_⟩
  rcases List.mem_append.1 hmem with hold | hnew
  · exact h.2 hold
  · obtain ⟨i, hi, hp⟩ := List.mem_map.1 (List.mem_filter.1 hnew).1
    have hlength := congrArg (fun path : Path => path.parts.length) hp
    simp only [Path.parent, List.length_take, List.length_dropLast, List.mem_range] at hi hlength
    omega

theorem foldlM_step_write
    {parts : List String} {start : Path}
    (h : parts.foldlM f.step start = .ok q)
    (p : Path) (text : String) :
    parts.foldlM (f.write p text).step start = .ok q := by
  induction parts generalizing start with
  | nil => exact h
  | cons part parts ih =>
      rw [List.foldlM_cons] at h ⊢
      obtain ⟨next, hnext, hrest⟩ := bind_eq_ok_iff.1 h
      have hstep : (f.write p text).step start part = .ok next := by
        unfold step at hnext ⊢
        cases hfolder : f.hasFolder start with
        | true =>
            rw [hfolder, if_pos rfl] at hnext
            rw [hasFolder_write_of_hasFolder hfolder, if_pos rfl]
            exact hnext
        | false =>
            rw [hfolder, if_neg (by decide)] at hnext
            exact absurd hnext nofun
      rw [bind_of_eq_ok hstep]
      exact ih hrest

/-- A path leads on to its place when a text is written. -/
theorem locate_write
    (h : f.locate q = .ok place)
    (p : Path) (text : String) :
    (f.write p text).locate q = .ok place :=
  foldlM_step_write h p text

namespace StandsAt

/-- A text added at the end stands after the one that stood there. -/
theorem append
    (h : f.StandsAt p place text)
    (more : String) :
    (f.append p more).StandsAt p place (text ++ more) := by
  have hwritten : f.append p more = f.write place (text ++ more) := by
    rw [Files.append, h.locate]
    simp only [h.hasFolder, h.text]
    rfl
  rw [hwritten]
  refine ⟨locate_write h.locate _ _, hasFolder_write_self h.hasFolder _, ?_⟩
  rw [read?_write_self]
  rfl

/-- The text is found. -/
theorem readIfAny
    (h : f.StandsAt p place text) :
    ∃ found, f.readIfAny p = .ok found ∧ found.getD "" = text := by
  have htext := h.text
  cases hfound : f.read? place with
  | none =>
      refine ⟨none, ?_, by rw [← htext, hfound]⟩
      rw [Files.readIfAny, readText, bind_of_eq_ok h.locate, hfound]
      simp only [h.hasFolder]
      rfl
  | some found =>
      refine ⟨some found, ?_, by rw [← htext, hfound]⟩
      rw [Files.readIfAny, readText, bind_of_eq_ok h.locate, hfound]
      rfl

end StandsAt

end Lemmas

end Files
end Spreadsheet
