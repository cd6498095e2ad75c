import Spreadsheet.Proofs.Binary64.Interval
import Spreadsheet.Proofs.Formula.Total

/-!
# The binary numbers of numbers

An integer is rounded when it is made a binary number, and a number that is one
already stays as it is.  So two numbers in order stand for binary numbers in
order.  These may come to be the same, but only zero comes to be zero.

Results: the binary numbers of two numbers in order are in order
(`toBinary64_mono`), and the number is zero if its binary number is
(`isZero_of_toBinary64`).
-/

namespace Spreadsheet

/-- The place to which an exact multiple of the smallest positive number is
rounded. -/
def Binary64.roundUnits (v : Int) : Int :=
  signedUnits (decide (v < 0)) (nearest v.natAbs 1)

/-- The place after rounding; the ends of the line stay. -/
def Place.round : Place → Place
  | .at v => .at (Binary64.roundUnits v)
  | p => p

section Lemmas

namespace Binary64

theorem roundUnits_mono
    {v w : Int}
    (h : v ≤ w) :
    roundUnits v ≤ roundUnits w := by
  unfold roundUnits signedUnits
  by_cases hv : v < 0
  · by_cases hw : w < 0
    · have := nearest_mono 1 (show w.natAbs ≤ v.natAbs by omega)
      simp only [hv, hw, decide_true, if_true]
      omega
    · simp only [hv, hw, decide_true, decide_false, if_true, if_false, Bool.false_eq_true]
      omega
  · have hw : ¬ w < 0 := by omega
    have := nearest_mono 1 (show v.natAbs ≤ w.natAbs by omega)
    simp only [hv, hw, decide_false, if_false, Bool.false_eq_true]
    omega

theorem roundUnits_of_representable
    {negative : Bool} {units : Nat}
    (h : Representable units) :
    roundUnits (signedUnits negative units) = signedUnits negative units := by
  have hself : nearest units 1 = units := by
    have := nearest_mul_self Nat.one_pos h
    rwa [Nat.mul_one] at this
  rw [roundUnits, natAbs_signedUnits, hself]
  unfold signedUnits
  cases negative with
  | false =>
      have : ¬ (units : Int) < 0 := by omega
      simp [this]
  | true =>
      rcases Nat.eq_zero_or_pos units with rfl | hpos
      · simp
      · simp [hpos]

theorem roundUnits_ne_zero
    {v : Int}
    (h : v ≠ 0) :
    roundUnits v ≠ 0 := by
  have := nearest_pos (show v.natAbs ≠ 0 by omega)
  unfold roundUnits signedUnits
  split <;> omega

end Binary64

namespace Place

theorem round_mono
    {p q : Place}
    (h : p.compare q = .lt) :
    p.round.compare q.round ≠ .gt := by
  cases p <;> cases q <;> simp_all [round, compare]
  case at.at v w =>
    rw [Int.compare_eq_lt] at h
    rw [Int.compare_eq_gt, Int.not_lt]
    exact Binary64.roundUnits_mono (Int.le_of_lt h)

end Place

namespace Number

variable {x y : Number} {a b : Binary64}

theorem place?_of_ofInt?
    {i : Int}
    (h : Binary64.ofInt? i = some a) :
    a.place? = some (.at (Binary64.roundUnits (i * (Binary64.unitsPerOne : Int)))) := by
  have hpos : (0 : Int) < (Binary64.unitsPerOne : Int) := by
    exact_mod_cast Binary64.unitsPerOne_pos
  have hsign : i * (Binary64.unitsPerOne : Int) < 0 ↔ i < 0 := by
    have := Int.mul_lt_mul_right (b := i) (c := 0) hpos
    rwa [Int.zero_mul] at this
  have hmagnitude : (i * (Binary64.unitsPerOne : Int)).natAbs
      = i.natAbs * Binary64.unitsPerOne := by
    rw [Int.natAbs_mul, Int.natAbs_natCast]
  rw [Binary64.roundUnits, hmagnitude, decide_eq_decide.2 hsign]
  rw [Binary64.eq_of_unlessInfinite h]
  unfold Binary64.ofInt? Binary64.ofQuotient at h
  unfold Binary64.ofQuotient
  split
  · rfl
  · next hlimit =>
      rw [dif_neg hlimit] at h
      cases h

/-- The binary number stands where the number is rounded to. -/
theorem place?_of_toBinary64
    (h : x.toBinary64 = .ok a) :
    a.place? = x.place?.map Place.round := by
  cases x with
  | float x =>
      obtain rfl := Except.ok.inj h
      cases x with
      | nan => rfl
      | infinite negative => cases negative <;> rfl
      | finite negative units fits =>
          simp only [place?, Binary64.place?, Option.map_some, Place.round,
            Binary64.roundUnits_of_representable fits]
  | int i =>
      rw [toBinary64] at h
      cases hi : Binary64.ofInt? i with
      | none =>
          rw [hi] at h
          cases h
      | some x =>
          rw [hi] at h
          obtain rfl := Except.ok.inj h
          rw [place?_of_ofInt? hi, place?, Option.map_some, Place.round]

theorem toBinary64_mono
    (hxy : x.less y = true)
    (ha : x.toBinary64 = .ok a)
    (hb : y.toBinary64 = .ok b) :
    ∃ p q, a.place? = some p ∧ b.place? = some q ∧ p.compare q ≠ .gt := by
  rw [place?_of_toBinary64 ha, place?_of_toBinary64 hb]
  unfold less order? at hxy
  cases hx : x.place? <;> cases hy : y.place? <;> simp_all
  exact Place.round_mono hxy

theorem isZero_iff :
    x.isZero = true ↔ x.place? = some (.at 0) := by
  have hzero : (Number.int 0).place? = some (.at 0) := by simp [place?]
  unfold isZero equal order?
  rw [hzero]
  cases x.place? with
  | none => simp
  | some p => cases p <;> simp [Place.compare]

/-- No number but zero comes to be zero. -/
theorem isZero_of_toBinary64
    (h : x.toBinary64 = .ok a)
    (ha : (Number.float a).isZero = true) :
    x.isZero = true := by
  rw [isZero_iff] at ha ⊢
  have ha : a.place? = some (.at 0) := ha
  rw [place?_of_toBinary64 h, Option.map_eq_some_iff] at ha
  obtain ⟨p, hp, hround⟩ := ha
  cases p with
  | bottom => cases hround
  | top => cases hround
  | «at» v =>
      have hv : v = 0 := by
        by_contra hv
        exact Binary64.roundUnits_ne_zero hv (Place.at.inj hround)
      rw [hp, hv]

end Number

end Lemmas

end Spreadsheet
