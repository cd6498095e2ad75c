import Mathlib.Data.List.Forall2

/-!
# Computations that succeed

A computation succeeds if each of its steps does.

Results: a sequence of computations succeeds if each of them does
(`exists_mapM_eq_ok_iff`), and its results are theirs (`forall₂_of_mapM_eq_ok`).
-/

namespace Spreadsheet

section Lemmas

variable {ε α β : Type}

theorem bind_eq_ok_iff
    {x : Except ε α} {f : α → Except ε β} {b : β} :
    (x >>= f) = .ok b ↔ ∃ a, x = .ok a ∧ f a = .ok b := by
  cases x with
  | error fault => simp [bind, Except.bind]
  | ok a => simp [bind, Except.bind]

theorem exists_bind_eq_ok_iff
    {x : Except ε α} {f : α → Except ε β} :
    (∃ b, (x >>= f) = .ok b) ↔ ∃ a, x = .ok a ∧ ∃ b, f a = .ok b := by
  simp only [bind_eq_ok_iff]
  exact ⟨fun ⟨b, a, ha, hb⟩ => ⟨a, ha, b, hb⟩, fun ⟨a, ha, b, hb⟩ => ⟨b, a, ha, hb⟩⟩

theorem exists_bind_pure_eq_ok_iff
    {x : Except ε α} {f : α → β} :
    (∃ b, (x >>= fun a => pure (f a)) = .ok b) ↔ ∃ a, x = .ok a := by
  rw [exists_bind_eq_ok_iff]
  exact exists_congr fun a => and_iff_left ⟨f a, rfl⟩

theorem exists_eq_ok
    {x : Except ε α}
    (h : x.isOk = true) :
    ∃ a, x = .ok a := by
  cases x with
  | error e => simp [Except.toBool] at h
  | ok a => exact ⟨a, rfl⟩

theorem bind_of_eq_ok
    {x : Except ε α} {a : α}
    (h : x = .ok a)
    (f : α → Except ε β) :
    (x >>= f) = f a := by
  rw [h]
  rfl

theorem exists_mapM_eq_ok
    {f : α → Except ε β} {xs : List α}
    (h : ∀ x ∈ xs, ∃ y, f x = .ok y) :
    ∃ ys, xs.mapM f = .ok ys := by
  induction xs with
  | nil => exact ⟨[], rfl⟩
  | cons x xs ih =>
      obtain ⟨y, hy⟩ := h x (by simp)
      obtain ⟨ys, hys⟩ := ih fun x hx => h x (List.mem_cons_of_mem _ hx)
      refine ⟨y :: ys, ?_⟩
      rw [List.mapM_cons, bind_of_eq_ok hy, bind_of_eq_ok hys]
      rfl

theorem forall₂_of_mapM_eq_ok
    {f : α → Except ε β} {xs : List α} {ys : List β}
    (h : xs.mapM f = .ok ys) :
    List.Forall₂ (fun x y => f x = .ok y) xs ys := by
  induction xs generalizing ys with
  | nil =>
      obtain rfl := Except.ok.inj h
      exact .nil
  | cons x xs ih =>
      rw [List.mapM_cons] at h
      obtain ⟨y, hy, h⟩ := bind_eq_ok_iff.1 h
      obtain ⟨rest, hrest, h⟩ := bind_eq_ok_iff.1 h
      obtain rfl := Except.ok.inj h
      exact .cons hy (ih hrest)

theorem exists_getElem?_of_forall₂
    {R : α → β → Prop} {xs : List α} {ys : List β} {i : Nat} {x : α}
    (h : List.Forall₂ R xs ys)
    (hx : xs[i]? = some x) :
    ∃ y, ys[i]? = some y ∧ R x y := by
  induction h generalizing i with
  | nil => simp at hx
  | @cons x' y' xs ys hxy _ ih =>
      cases i with
      | zero =>
          obtain rfl := Option.some.inj hx
          exact ⟨y', rfl, hxy⟩
      | succ i => exact ih hx

/-- A sequence of computations succeeds if each of them does. -/
theorem exists_mapM_eq_ok_iff
    {f : α → Except ε β} {xs : List α} :
    (∃ ys, xs.mapM f = .ok ys) ↔ ∀ x ∈ xs, ∃ y, f x = .ok y := by
  constructor
  · rintro ⟨ys, hys⟩ x hx
    obtain ⟨i, hi⟩ := List.getElem?_of_mem hx
    obtain ⟨y, -, hy⟩ := exists_getElem?_of_forall₂ (forall₂_of_mapM_eq_ok hys) hi
    exact ⟨y, hy⟩
  · exact exists_mapM_eq_ok

/-- A sequence of computations without effects has their results. -/
theorem mapM_eq_pure
    {m : Type → Type} [Monad m] [LawfulMonad m]
    {f : α → m β} {g : α → β} {xs : List α}
    (h : ∀ x ∈ xs, f x = pure (g x)) :
    xs.mapM f = pure (xs.map g) := by
  induction xs with
  | nil => rw [List.mapM_nil, List.map_nil]
  | cons x xs ih =>
      rw [List.mapM_cons, h x (by simp), pure_bind, ih fun y hy => h y (List.mem_cons_of_mem _ hy),
        pure_bind, List.map_cons]

end Lemmas

end Spreadsheet
