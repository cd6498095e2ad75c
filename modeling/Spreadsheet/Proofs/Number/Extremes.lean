import Spreadsheet.Proofs.Number.Order

/-!
# The least and the greatest of some numbers

Both are found by keeping the best number so far, and taking a later one only if it is
better.  The order of numbers is transitive, and a finite number parts any two of them:
what comes before the second comes before it, or it comes before the second.

Results: the least and the greatest of some numbers are among them (`least_mem`,
`greatest_mem`), and of finite numbers none is less or greater (`not_less_least`,
`not_greatest_less`).
-/

namespace Spreadsheet

/-- Of two places in order, the first comes before a third, or this comes before the
second. -/
theorem Place.compare_lt_or
    {p r : Place}
    (h : p.compare r = .lt)
    (q : Place) :
    p.compare q = .lt ∨ q.compare r = .lt := by
  cases p <;> cases q <;> cases r <;> simp_all [compare, Int.compare_eq_lt]
  omega

namespace Number

/-- The first best of some numbers. -/
def firstBest (better : Number → Number → Bool) (x : Number) (xs : List Number) : Number :=
  xs.foldl (fun best y => if better y best then y else best) x

section Lemmas

variable {better : Number → Number → Bool} {x : Number} {xs : List Number}

theorem firstBest_cons
    (better : Number → Number → Bool) (x y : Number) (xs : List Number) :
    firstBest better x (y :: xs) = firstBest better (if better y x then y else x) xs := rfl

theorem firstBest_mem
    (better : Number → Number → Bool) (x : Number) (xs : List Number) :
    firstBest better x xs ∈ x :: xs := by
  induction xs generalizing x with
  | nil => exact List.mem_singleton_self x
  | cons y xs ih =>
      rw [firstBest_cons]
      rcases List.mem_cons.1 (ih (if better y x then y else x)) with heq | hmem
      · rw [heq]
        split <;> simp
      · simp [hmem]

/-- A strict order in which a number that satisfies a condition parts any two. -/
structure Parts (better : Number → Number → Bool) (p : Number → Prop) : Prop where
  irrefl (x : Number) : better x x = false
  trans {x y z : Number} : better x y = true → better y z = true → better x z = true
  parts {x y z : Number} : p y → better x z = true → better x y = true ∨ better y z = true

theorem Parts.flip
    {p : Number → Prop}
    (h : Parts better p) :
    Parts (fun x y => better y x) p :=
  { irrefl := h.irrefl
    trans := fun hxy hyz => h.trans hyz hxy
    parts := fun hy hzx => (h.parts hy hzx).symm }

/-- No number is better than the first best. -/
theorem Parts.not_better_firstBest
    {p : Number → Prop}
    (h : Parts better p)
    (hall : ∀ y ∈ x :: xs, p y) :
    ∀ y ∈ x :: xs, better y (firstBest better x xs) = false := by
  induction xs generalizing x with
  | nil =>
      intro y hy
      obtain rfl := List.mem_singleton.1 hy
      exact h.irrefl y
  | cons y xs ih =>
      obtain ⟨hx, hy, hxs⟩ := by simpa only [List.forall_mem_cons] using hall
      rw [firstBest_cons]
      by_cases hbest : better y x = true
      · rw [if_pos hbest]
        have hrest := List.forall_mem_cons.1 (ih (List.forall_mem_cons.2 ⟨hy, hxs⟩))
        refine List.forall_mem_cons.2 ⟨?_, List.forall_mem_cons.2 hrest⟩
        rw [Bool.eq_false_iff]
        intro hbetter
        exact Bool.eq_false_iff.1 hrest.1 (h.trans hbest hbetter)
      · rw [if_neg hbest]
        have hrest := List.forall_mem_cons.1 (ih (List.forall_mem_cons.2 ⟨hx, hxs⟩))
        refine List.forall_mem_cons.2 ⟨hrest.1, List.forall_mem_cons.2 ⟨?_, hrest.2⟩⟩
        rw [Bool.eq_false_iff]
        intro hbetter
        rcases h.parts hx hbetter with hyx | hxbest
        · exact hbest hyx
        · exact Bool.eq_false_iff.1 hrest.1 hxbest

theorem isSome_place?_of_isFinite
    (h : x.isFinite = true) :
    x.place?.isSome = true := by
  cases x with
  | int i => rfl
  | float x =>
      cases x with
      | nan => cases h
      | infinite negative => cases h
      | finite negative units fits => rfl

/-- The order of numbers; a finite number parts any two. -/
theorem parts_less :
    Parts less fun x => x.isFinite = true := by
  constructor
  case irrefl =>
    intro x
    unfold less order?
    cases x.place? with
    | none => rfl
    | some p => simp [Place.compare_self]
  case trans => exact less_trans
  case parts =>
    intro x y z hy hless
    obtain ⟨q, hq⟩ := Option.isSome_iff_exists.1 (isSome_place?_of_isFinite hy)
    unfold less order? at hless ⊢
    cases hp : x.place? with
    | none => simp [hp] at hless
    | some p =>
        cases hr : z.place? with
        | none => simp [hp, hr] at hless
        | some r =>
            simp only [hp, hq, hr, beq_iff_eq, Option.some.injEq] at hless ⊢
            exact Place.compare_lt_or hless q

/-- The first least of some numbers is one of them. -/
theorem least_mem
    (x : Number) (xs : List Number) :
    least x xs ∈ x :: xs :=
  firstBest_mem less x xs

/-- The first greatest of some numbers is one of them. -/
theorem greatest_mem
    (x : Number) (xs : List Number) :
    greatest x xs ∈ x :: xs :=
  firstBest_mem (fun y best => best.less y) x xs

/-- No finite number of some is less than the least. -/
theorem not_less_least
    (hall : ∀ y ∈ x :: xs, y.isFinite = true) :
    ∀ y ∈ x :: xs, y.less (least x xs) = false :=
  parts_less.not_better_firstBest hall

/-- The greatest is not less than a finite number of some. -/
theorem not_greatest_less
    (hall : ∀ y ∈ x :: xs, y.isFinite = true) :
    ∀ y ∈ x :: xs, (greatest x xs).less y = false :=
  parts_less.flip.not_better_firstBest hall

end Lemmas

end Number
end Spreadsheet
