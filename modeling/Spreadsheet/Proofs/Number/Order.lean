import Spreadsheet.Number.Basic
import Spreadsheet.Proofs.Binary64.Interval

/-!
# The greatest of numbers

The undefined number has no place on the line, and so is neither less nor
greater than any other.  Where the first of two numbers has a place, the greatest
of them has one too, and does not come before the first.

A difference is rounded, but never beyond a number that needs no rounding.

Results: the greatest of two numbers is at least the first (`atLeast_greatest`),
and one taken from a number leaves none that is greater, and none that is below the
integers before it (`exists_sub_one`, `exists_sub_one_of_not_less`).
-/

namespace Spreadsheet

namespace Binary64

section Lemmas

/-- The difference of two positive numbers is rounded once. -/
theorem sub_finite
    {u v : Nat}
    (hu : Representable u)
    (hv : Representable v)
    (hlt : v < u) :
    sub (.finite false u hu) (.finite false v hv) = ofQuotient false (u - v) 1 := by
  have hsum : (u : Int) + -(v : Int) = ((u - v : Nat) : Int) := by omega
  have hne : u - v ≠ 0 := by omega
  have hsign : ¬ ((u - v : Nat) : Int) < 0 := by omega
  simp [sub, neg, add, signedUnits, hsum, hne, hsign]

/-- A smaller number taken from a positive one leaves none that is greater. -/
theorem exists_sub_finite
    {u v : Nat}
    (hu : Representable u)
    (hv : Representable v)
    (hlt : v < u) :
    ∃ w hw, sub (.finite false u hu) (.finite false v hv) = .finite false w hw
      ∧ nearest (u - v) 1 = w ∧ w ≤ u := by
  have hnearest := nearest_le hu (Nat.sub_le u v)
  have hlimit := Nat.lt_of_le_of_lt hnearest hu.1
  refine ⟨nearest (u - v) 1, representable_nearest hlimit, ?_, rfl, hnearest⟩
  rw [sub_finite hu hv hlt, ofQuotient, dif_pos hlimit]

theorem representable_unitsPerOne :
    Representable unitsPerOne := by
  unfold unitsPerOne
  decide +kernel

/-- Integers of at most 53 bits are representable. -/
theorem representable_mul_unitsPerOne
    {n u : Nat}
    (hn : n ≤ Nat.pow 2 53)
    (hu : Representable u)
    (hle : n * unitsPerOne ≤ u) :
    Representable (n * unitsPerOne) := by
  have hlt := Nat.lt_of_le_of_lt hle hu.1
  unfold unitsPerOne at hlt ⊢
  generalize 1074 = s at hlt ⊢
  exact representable_mul_two_pow hn hlt

theorem ofInt?_one :
    ofInt? 1 = some (.finite false unitsPerOne representable_unitsPerOne) := by
  have h := ofQuotient_mul_self false (d := 1) (by decide) representable_unitsPerOne
  rw [Nat.mul_one] at h
  show (ofQuotient false (1 * unitsPerOne) 1).unlessInfinite = _
  rw [Nat.one_mul, h]
  rfl

end Lemmas

end Binary64

section Lemmas

theorem Place.compare_eq_eq
    {p q : Place} :
    p.compare q = .eq ↔ p = q := by
  cases p <;> cases q <;> simp [Place.compare]

theorem Place.compare_lt_trans
    {p q r : Place}
    (h : p.compare q = .lt)
    (h' : q.compare r = .lt) :
    p.compare r = .lt := by
  cases p <;> cases q <;> cases r <;> simp_all [Place.compare, Int.compare_eq_lt]
  omega

end Lemmas

namespace Number

/-- Both numbers have a place, and the first does not come before the second. -/
def AtLeast (x y : Number) : Prop :=
  ∃ o, x.order? y = some o ∧ o ≠ .lt

section Lemmas

variable {x y : Number}

/-- Numbers are equal if they have one place. -/
theorem equal_iff :
    x.equal y = true ↔ ∃ p, x.place? = some p ∧ y.place? = some p := by
  unfold equal order?
  cases x.place? with
  | none => simp
  | some p =>
      cases y.place? with
      | none => simp
      | some q =>
          simp only [beq_iff_eq, Option.some.injEq, Place.compare_eq_eq]
          constructor
          · rintro rfl
            exact ⟨p, rfl, rfl⟩
          · rintro ⟨_, rfl, rfl⟩
            rfl

theorem equal_trans
    {z : Number}
    (h : x.equal y = true)
    (h' : y.equal z = true) :
    x.equal z = true := by
  obtain ⟨p, hx, hy⟩ := equal_iff.1 h
  obtain ⟨q, hy', hz⟩ := equal_iff.1 h'
  obtain rfl := Option.some.inj (hy.symm.trans hy')
  exact equal_iff.2 ⟨p, hx, hz⟩

/-- The finite numbers are those between the ends of the line. -/
theorem isFinite_iff :
    x.isFinite = true ↔ ∃ units, x.place? = some (.at units) := by
  cases x with
  | int i => simp [isFinite, place?]
  | float x =>
      cases x with
      | infinite negative => cases negative <;> simp [isFinite, Binary64.isFinite, place?,
          Binary64.place?]
      | nan => simp [isFinite, Binary64.isFinite, place?, Binary64.place?]
      | finite negative units fits =>
          simp [isFinite, Binary64.isFinite, place?, Binary64.place?]

theorem equal_self_of_isFinite
    (hfinite : x.isFinite = true) :
    x.equal x = true := by
  obtain ⟨units, hunits⟩ := isFinite_iff.1 hfinite
  exact equal_iff.2 ⟨_, hunits, hunits⟩

theorem isFinite_of_equal
    (h : x.equal y = true)
    (hfinite : y.isFinite = true) :
    x.isFinite = true := by
  obtain ⟨p, hx, hy⟩ := equal_iff.1 h
  obtain ⟨units, hunits⟩ := isFinite_iff.1 hfinite
  obtain rfl := Option.some.inj (hy.symm.trans hunits)
  exact isFinite_iff.2 ⟨units, hx⟩

theorem atLeast_self
    (h : x.place?.isSome = true) :
    x.AtLeast x := by
  obtain ⟨p, hp⟩ := Option.isSome_iff_exists.1 h
  refine ⟨.eq, ?_, by simp⟩
  simp [order?, hp, Place.compare_self]

theorem AtLeast.of_less
    (h : x.less y = true) :
    y.AtLeast x := by
  refine ⟨.gt, ?_, by simp⟩
  rw [← order?_swap, beq_iff_eq.1 h]
  rfl

/-- A number that another is less than has a place. -/
theorem isSome_place?_of_less
    (h : x.less y = true) :
    y.place?.isSome = true := by
  cases hy : y.place? with
  | some p => rfl
  | none =>
      unfold less order? at h
      rw [hy] at h
      cases hx : x.place? <;> simp [hx] at h

theorem less_trans
    {z : Number}
    (h : x.less y = true)
    (h' : y.less z = true) :
    x.less z = true := by
  unfold less order? at h h' ⊢
  cases hx : x.place? <;> cases hy : y.place? <;> cases hz : z.place? <;> simp_all
  exact Place.compare_lt_trans h h'

/-- What is less than an integer is less than a greater one. -/
theorem less_int_of_le
    {i j : Int}
    (h : x.less (.int i) = true)
    (hle : i ≤ j) :
    x.less (.int j) = true := by
  rcases Int.lt_or_eq_of_le hle with hlt | rfl
  · exact less_trans h (by simpa using hlt)
  · exact h

theorem greatest_eq
    (x y : Number) :
    greatest x [y] = if x.less y then y else x := rfl

/-- The greatest of a number and two integers is found in either way. -/
theorem greatest_greatest
    (x : Number) (i j : Int) :
    greatest (greatest x [.int i]) [.int j] = greatest x [.int (max i j)] := by
  simp only [greatest_eq]
  by_cases hi : x.less (.int i) = true
  · rw [if_pos hi, if_pos (less_int_of_le hi (by omega)), less_int]
    simp only [decide_eq_true_eq]
    split <;> congr 1 <;> omega
  · rw [if_neg hi]
    by_cases hj : x.less (.int j) = true
    · have hlt : i < j := Int.not_le.1 fun hle => hi (less_int_of_le hj hle)
      have hmax : max i j = j := Int.max_eq_right (Int.le_of_lt hlt)
      rw [hmax]
    · have hmax : ¬ x.less (.int (max i j)) = true := by
        rcases Int.le_total i j with hle | hle
        · rwa [Int.max_eq_right hle]
        · rwa [Int.max_eq_left hle]
      rw [if_neg hj, if_neg hmax]

theorem isSome_place?_greatest
    (h : x.place?.isSome = true)
    (y : Number) :
    (greatest x [y]).place?.isSome = true := by
  rw [greatest_eq]
  split
  · next hless => exact isSome_place?_of_less hless
  · exact h

/-- The greatest of two numbers is at least the first. -/
theorem atLeast_greatest
    (h : x.place?.isSome = true)
    (y : Number) :
    (greatest x [y]).AtLeast x := by
  rw [greatest_eq]
  split
  · next hless => exact .of_less hless
  · exact atLeast_self h

/-- What is counted out fits into memory. -/
theorem lt_memoryLimit_of_count
    {i : Int} {n : Nat}
    (h : (Number.int i).count = .ok n) :
    i < memoryLimit := by
  simp only [Number.count] at h
  split at h
  · assumption
  · split at h <;> simp at h

/-- Fewer things than can be counted out can be counted out. -/
theorem count_of_le
    {i j : Int} {n : Nat}
    (hle : i ≤ j)
    (h : (Number.int j).count = .ok n) :
    (Number.int i).count = .ok i.toNat := by
  have hlt := Int.lt_of_le_of_lt hle (lt_memoryLimit_of_count h)
  simp only [Number.count]
  rw [if_pos hlt]

/-- One taken from a number above one leaves none that is greater. -/
theorem exists_sub_one
    {x : Binary64}
    (h : (Number.int 1).less (.float x) = true) :
    ∃ y, (Number.float x).sub (.int 1) = .ok (.float y)
      ∧ (Number.float x).less (.float y) = false := by
  refine ⟨x.sub (.finite false Binary64.unitsPerOne Binary64.representable_unitsPerOne), ?_, ?_⟩
  · simp [sub, combine, toBinary64, Binary64.ofInt?_one, bind, Except.bind, pure, Except.pure]
  · cases x with
    | nan => rfl
    | infinite negative => cases negative <;> rfl
    | finite negative u fits =>
        have hone := Binary64.representable_unitsPerOne
        cases negative with
        | true =>
            exfalso
            simp only [less, order?, place?, Binary64.place?, Place.compare,
              Binary64.signedUnits, if_true, beq_iff_eq, Option.some.injEq,
              Int.compare_eq_lt] at h
            omega
        | false =>
            have hlt : Binary64.unitsPerOne < u := by
              simp only [less, order?, place?, Binary64.place?, Place.compare,
                Binary64.signedUnits, Bool.false_eq_true, if_false, beq_iff_eq, Option.some.injEq,
                Int.compare_eq_lt] at h
              omega
            obtain ⟨w, hw, hsub, -, hle⟩ := Binary64.exists_sub_finite fits hone hlt
            rw [hsub]
            simp only [less, order?, place?, Binary64.place?, Place.compare,
              Binary64.signedUnits, Bool.false_eq_true, if_false, beq_eq_false_iff_ne, ne_eq,
              Option.some.injEq, Int.compare_eq_lt]
            omega

/-- One taken from a number that is not below a positive integer leaves one that is not
below the integer before. -/
theorem exists_sub_one_of_not_less
    {x : Binary64} {n : Nat}
    (hn : n ≤ Nat.pow 2 53)
    (h : (Number.float x).less (.int (n + 1)) = false) :
    ∃ y, (Number.float x).sub (.int 1) = .ok (.float y)
      ∧ (Number.float y).less (.int n) = false := by
  refine ⟨x.sub (.finite false Binary64.unitsPerOne Binary64.representable_unitsPerOne), ?_, ?_⟩
  · simp [sub, combine, toBinary64, Binary64.ofInt?_one, bind, Except.bind, pure, Except.pure]
  · have hone := Binary64.representable_unitsPerOne
    have hpos := Binary64.unitsPerOne_pos
    have hsplit : ((n : Int) + 1) * (Binary64.unitsPerOne : Int)
        = ((n * Binary64.unitsPerOne : Nat) : Int) + (Binary64.unitsPerOne : Int) := by
      push_cast
      ring
    cases x with
    | nan => rfl
    | infinite negative =>
        cases negative with
        | true => cases h
        | false => rfl
    | finite negative u fits =>
        simp only [less, order?, place?, Binary64.place?, Place.compare, hsplit,
          beq_eq_false_iff_ne, ne_eq, Option.some.injEq, Int.compare_eq_lt] at h
        cases negative with
        | true =>
            simp only [Binary64.signedUnits, if_true] at h
            omega
        | false =>
            simp only [Binary64.signedUnits, Bool.false_eq_true, if_false] at h
            rcases Nat.lt_or_ge Binary64.unitsPerOne u with hlt | hge
            · obtain ⟨w, hw, hsub, hnearest, -⟩ := Binary64.exists_sub_finite fits hone hlt
              have hfits := Binary64.representable_mul_unitsPerOne hn fits (by omega)
              have hself := Binary64.nearest_mul_self Nat.one_pos hfits
              rw [Nat.mul_one] at hself
              have hmono := Binary64.nearest_mono 1
                (show n * Binary64.unitsPerOne ≤ u - Binary64.unitsPerOne by omega)
              rw [hself, hnearest] at hmono
              rw [hsub]
              simp only [less, order?, place?, Binary64.place?, Place.compare,
                Binary64.signedUnits, Bool.false_eq_true, if_false, beq_eq_false_iff_ne, ne_eq,
                Option.some.injEq, Int.compare_eq_lt, ← Int.natCast_mul]
              omega
            · have hu : u = Binary64.unitsPerOne := by omega
              have hzero : n * Binary64.unitsPerOne = 0 := by omega
              subst hu
              simp only [less, order?, place?, Binary64.place?, Place.compare, Binary64.sub,
                Binary64.neg, Binary64.add, Binary64.signedUnits, ← Int.natCast_mul, hzero]
              simp

end Lemmas

end Number
end Spreadsheet
