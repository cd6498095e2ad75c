import Spreadsheet.Cell.Basic
import Spreadsheet.Reference.Basic

/-!
# Edit history

The edits that can be taken back, latest first, and the edits taken back that
can be made again.  A new edit forgets the latter; at most `limit` edits are
kept, the oldest going first.

Results: what was just undone is what is redone (`redo?_of_undo?`), and
recording keeps no more than the limit (`depth_push_le`).
-/

namespace Spreadsheet

/-- A change of the cell at one position. -/
structure Edit where
  position : Reference
  before : Option Cell
  after : Option Cell
deriving DecidableEq

/-- The edits around the present, of any kind. -/
structure History (ε : Type) where
  limit : Nat
  past : List ε
  future : List ε
deriving DecidableEq

namespace History

variable {ε : Type}

/-- The limit of a history for which none is asked. -/
def defaultLimit : Nat := 50

/-- The history without edits. -/
def empty (limit : Nat) : History ε := ⟨limit, [], []⟩

/-- No history is asked to keep this many edits. -/
def greatestLimit : Nat := Nat.pow 2 63

/-- The empty history of a limit that must be positive. -/
def ofLimit (limit : Int) : Except Fault (History ε) :=
  if limit < 1 then do
    throw (.rejected (.undoLimit (← integerText limit)))
  else if limit < greatestLimit then
    .ok (empty limit.toNat)
  else
    .error .tooLarge

/-- The history with an edit recorded. -/
def push (h : History ε) (e : ε) : History ε :=
  { h with past := (e :: h.past).take h.limit, future := [] }

/-- The latest edit, and the history with it taken back. -/
def undo? (h : History ε) : Option (ε × History ε) :=
  match h.past with
  | [] => none
  | e :: past => some (e, { h with past := past, future := e :: h.future })

/-- The edit taken back last, and the history with it made again. -/
def redo? (h : History ε) : Option (ε × History ε) :=
  match h.future with
  | [] => none
  | e :: future => some (e, { h with past := (e :: h.past).take h.limit, future := future })

/-- The history with all edits forgotten. -/
def clear (h : History ε) : History ε := empty h.limit

/-- There is an edit to take back. -/
def canUndo (h : History ε) : Bool := !h.past.isEmpty

/-- There is an edit to make again. -/
def canRedo (h : History ε) : Bool := !h.future.isEmpty

section Lemmas

theorem depth_push_le
    (h : History ε) (e : ε) :
    (h.push e).past.length ≤ h.limit := by
  simp only [push, List.length_take]
  omega

/-- Redoing makes the edit that was just undone. -/
theorem redo?_of_undo?
    {h h' : History ε} {e : ε}
    (hlimit : h.past.length ≤ h.limit)
    (hundo : h.undo? = some (e, h')) :
    h'.redo? = some (e, h) := by
  obtain ⟨limit, past, future⟩ := h
  cases past with
  | nil => simp [undo?] at hundo
  | cons d past =>
      simp only [undo?, Option.some.injEq, Prod.mk.injEq] at hundo
      obtain ⟨rfl, rfl⟩ := hundo
      simp only at hlimit
      simp [redo?, List.take_of_length_le hlimit]

end Lemmas

end History
end Spreadsheet
