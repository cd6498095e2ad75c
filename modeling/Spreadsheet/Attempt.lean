/-!
# Attempts

An attempt is an action on a state that may fail; the changes that it made
before it failed stay made.

Results: what follows an attempt that succeeds starts in the state that it left
(`bind_of_ok`), and nothing follows one that fails (`bind_of_error`).
-/

namespace Spreadsheet

/-- An action on a state that may fail; the changes before that stay. -/
abbrev Attempt (ε σ α : Type) := ExceptT ε (StateM σ) α

namespace Attempt

section Lemmas

theorem bind_of_ok
    {ε σ α β : Type} {x : Attempt ε σ α} {next : α → Attempt ε σ β}
    {s t : σ} {a : α}
    (h : x s = (.ok a, t)) :
    (x >>= next) s = next a t := by
  simp only [bind, ExceptT.bind, ExceptT.mk, StateT.bind, h]
  rfl

theorem bind_of_error
    {ε σ α β : Type} {x : Attempt ε σ α} {next : α → Attempt ε σ β}
    {s t : σ} {cause : ε}
    (h : x s = (.error cause, t)) :
    (x >>= next) s = (.error cause, t) := by
  simp only [bind, ExceptT.bind, ExceptT.mk, StateT.bind, h]
  rfl

end Lemmas

end Attempt
end Spreadsheet
