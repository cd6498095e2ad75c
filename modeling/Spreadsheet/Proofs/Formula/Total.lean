import Spreadsheet.Formula.Evaluation

/-!
# Totals without the empty cells

An empty cell counts as zero, and adding zero changes every number but the
negative zero of the binary numbers.  A total starts at the integer zero and
never becomes the negative zero, so the empty cells of a range can be left out.

Results: a total of cells is that of the cells that are not empty
(`total_eq_total_present`), so a function of a range depends on these cells
only (`aggregate_eq_aggregateOf`).
-/

namespace Spreadsheet

namespace Binary64

/-- The zero with a minus sign. -/
def negativeZero : Binary64 := .finite true 0 representable_zero

theorem nearest_pos
    {n : Nat}
    (hn : n ≠ 0) :
    nearest n 1 ≠ 0 := by
  have hpow : 0 < Nat.pow 2 (gap n) := Nat.pow_pos (by decide)
  have hle : Nat.pow 2 (gap n) ≤ n := by
    refine Nat.le_trans ?_ (Nat.log2_self_le hn)
    exact Nat.pow_le_pow_right (by decide) (Nat.sub_le _ _)
  have hdiv : 0 < n / Nat.pow 2 (gap n) := Nat.div_pos hle hpow
  have hround := le_roundDiv n (Nat.pow 2 (gap n))
  simp only [nearest, Nat.div_one, Nat.one_mul]
  exact Nat.mul_ne_zero (by omega) (by omega)

theorem ofQuotient_ne_negativeZero
    (negative : Bool) {n : Nat}
    (hn : n ≠ 0) :
    ofQuotient negative n 1 ≠ negativeZero := by
  unfold ofQuotient negativeZero
  split
  · intro h
    injection h with _ hunits
    exact nearest_pos hn hunits
  · simp

theorem isNegative_ofQuotient
    (negative : Bool) (n d : Nat) :
    (ofQuotient negative n d).isNegative = negative := by
  unfold ofQuotient
  split <;> rfl

theorem eq_of_unlessInfinite
    {x y : Binary64}
    (h : y.unlessInfinite = some x) :
    x = y := by
  cases y with
  | infinite negative => simp [unlessInfinite] at h
  | finite negative units fits => exact (Option.some.inj h).symm
  | nan => exact (Option.some.inj h).symm

theorem ofInt?_ne_negativeZero
    {i : Int} {x : Binary64}
    (h : ofInt? i = some x) :
    x ≠ negativeZero := by
  have hx : x = ofQuotient (decide (i < 0)) (i.natAbs * unitsPerOne) 1 :=
    eq_of_unlessInfinite h
  intro hzero
  have hsign := isNegative_ofQuotient (decide (i < 0)) (i.natAbs * unitsPerOne) 1
  rw [← hx, hzero] at hsign
  have hi : i < 0 := of_decide_eq_true hsign.symm
  have hunits : i.natAbs * unitsPerOne ≠ 0 :=
    Nat.mul_ne_zero (by omega) (Nat.ne_of_gt unitsPerOne_pos)
  exact ofQuotient_ne_negativeZero _ hunits (hx.symm.trans hzero)

theorem ofInt?_zero :
    ofInt? 0 = some zero := by
  have h := ofQuotient_mul_self false (d := 1) (by decide) representable_zero
  simp only [Nat.zero_mul] at h
  simp [ofInt?, h, zero, unlessInfinite]

/-- Adding the positive zero changes nothing but the negative zero. -/
theorem add_zero_of_ne_negativeZero
    {x : Binary64}
    (hx : x ≠ negativeZero) :
    x.add zero = x := by
  cases x with
  | nan => rfl
  | infinite negative => rfl
  | finite negative units fits =>
      by_cases hu : units = 0
      · subst hu
        cases negative with
        | false => simp [add, zero, signedUnits]
        | true => exact absurd rfl hx
      · have hs : signedUnits negative units ≠ 0 := by
          cases negative <;> simp [signedUnits] <;> omega
        have h := ofQuotient_mul_self negative (d := 1) (by decide) fits
        simp only [Nat.mul_one] at h
        have hz : signedUnits false 0 = 0 := rfl
        simp only [add, zero, hz, Int.add_zero, hs, if_false, sign_signedUnits hu,
          natAbs_signedUnits, h]

/-- A sum is the negative zero only if its first part is. -/
theorem add_ne_negativeZero
    {x : Binary64} (y : Binary64)
    (hx : x ≠ negativeZero) :
    x.add y ≠ negativeZero := by
  cases x with
  | nan => simp [add, negativeZero]
  | infinite a =>
      cases y with
      | nan => simp [add, negativeZero]
      | infinite b =>
          simp only [add, negativeZero]
          split <;> simp
      | finite b v _ => simp [add, negativeZero]
  | finite a u hu =>
      cases y with
      | nan => simp [add, negativeZero]
      | infinite b => simp [add, negativeZero]
      | finite b v hv =>
          simp only [add]
          split
          · next hsum =>
              intro h
              injection h with hsign _
              obtain ⟨rfl, rfl⟩ : a = true ∧ b = true := by simpa using hsign
              have hzero : u = 0 := by
                simp only [signedUnits, if_true] at hsum
                omega
              subst hzero
              exact hx rfl
          · next hsum => exact ofQuotient_ne_negativeZero _ (Int.natAbs_ne_zero.2 hsum)

end Binary64

namespace Number

theorem toBinary64_ne_negativeZero
    {x : Number} {a : Binary64}
    (hx : x ≠ .float Binary64.negativeZero)
    (h : x.toBinary64 = .ok a) :
    a ≠ Binary64.negativeZero := by
  cases x with
  | int i =>
      cases hb : Binary64.ofInt? i with
      | none => simp [toBinary64, hb] at h
      | some b =>
          simp only [toBinary64, hb, Option.elim_some, Except.ok.injEq] at h
          subst h
          exact Binary64.ofInt?_ne_negativeZero hb
  | float b =>
      obtain rfl := Except.ok.inj h
      exact fun hb => hx (congrArg Number.float hb)

theorem add_zero
    {x : Number}
    (hx : x ≠ .float Binary64.negativeZero) :
    x.add (.int 0) = .ok x := by
  cases x with
  | int i => simp
  | float a =>
      have ha : a ≠ Binary64.negativeZero := fun h => hx (congrArg Number.float h)
      simp [add, combine, toBinary64, Binary64.ofInt?_zero,
        Binary64.add_zero_of_ne_negativeZero ha, bind, Except.bind, pure, Except.pure]

theorem add_ne_negativeZero
    {x y z : Number}
    (hx : x ≠ .float Binary64.negativeZero)
    (h : x.add y = .ok z) :
    z ≠ .float Binary64.negativeZero := by
  have hfloat : ∀ {a b : Binary64}, x.toBinary64 = .ok a →
      Number.float (a.add b) ≠ .float Binary64.negativeZero := by
    intro a b ha heq
    exact Binary64.add_ne_negativeZero b (toBinary64_ne_negativeZero hx ha)
      (Number.float.inj heq)
  have hmixed : (do
        let a ← x.toBinary64
        let b ← y.toBinary64
        return Number.float (a.add b) : Except Fault Number) = .ok z →
      z ≠ .float Binary64.negativeZero := by
    intro h
    cases ha : x.toBinary64 with
    | error fault => simp [ha, bind, Except.bind] at h
    | ok a =>
        cases hb : y.toBinary64 with
        | error fault => simp [ha, hb, bind, Except.bind] at h
        | ok b =>
            simp only [ha, hb, bind, Except.bind, pure, Except.pure, Except.ok.injEq] at h
            subst h
            exact hfloat ha
  cases x with
  | float a => exact hmixed h
  | int i =>
      cases y with
      | float b => exact hmixed h
      | int j =>
          simp only [add_int, Except.ok.injEq] at h
          subst h
          simp

end Number

namespace Formula

/-- Nothing follows a failure. -/
class LawfulFailure (m : Type → Type) [Monad m] [MonadExcept Fault m] : Prop
    extends LawfulMonad m where
  throw_bind {α β : Type} (fault : Fault) (next : α → m β) :
    (throw fault >>= next) = throw fault

namespace Environment

variable {m : Type → Type} [Monad m] [MonadExcept Fault m]

/-- The cells of a range argument that are not empty. -/
def present (env : Environment m) (range : List Char) : Except Fault (List Reference) :=
  (env.rangeCells range).map fun cells => cells.filter fun r => !env.isEmpty r

/-- An empty cell is read as a missing value. -/
def ReadsEmpty (env : Environment m) : Prop :=
  ∀ r, env.isEmpty r = true → env.value r = pure none

/-- The value of a function of some cells, none of them empty. -/
def aggregateOf (env : Environment m) (f : Aggregate) (present : List Reference) : m Number :=
  match f with
  | .sum => env.total present
  | .count => return .int present.length
  | .average =>
      if present.isEmpty then
        return .int 0
      else do
        let sum ← env.total present
        ofExcept (sum.div (.int present.length))
  | .least => do
      match ← present.mapM env.numeric with
      | [] => return .int 0
      | x :: xs => return Number.least x xs
  | .greatest => do
      match ← present.mapM env.numeric with
      | [] => return .int 0
      | x :: xs => return Number.greatest x xs

section Lemmas

variable [LawfulFailure m]

theorem numeric_of_isEmpty
    {env : Environment m} {r : Reference}
    (henv : env.ReadsEmpty)
    (hr : env.isEmpty r = true) :
    env.numeric r = pure (.int 0) := by
  simp [numeric, henv r hr, coerceValue, ofExcept, pure, Except.pure]

theorem foldlM_add_present
    {env : Environment m}
    (henv : env.ReadsEmpty)
    (cells : List Reference) {sum : Number}
    (hsum : sum ≠ .float Binary64.negativeZero) :
    cells.foldlM (fun sum r => do ofExcept (sum.add (← env.numeric r))) sum
      = (cells.filter fun r => !env.isEmpty r).foldlM
          (fun sum r => do ofExcept (sum.add (← env.numeric r))) sum := by
  induction cells generalizing sum with
  | nil => rfl
  | cons r cells ih =>
      cases hr : env.isEmpty r with
      | true =>
          have hstep : (do ofExcept (sum.add (← env.numeric r)) : m Number) = pure sum := by
            rw [numeric_of_isEmpty henv hr, pure_bind, Number.add_zero hsum]
            rfl
          rw [List.foldlM_cons, hstep, pure_bind, ih hsum]
          simp [hr]
      | false =>
          rw [List.filter_cons_of_pos (by simp [hr]), List.foldlM_cons, List.foldlM_cons,
            bind_assoc, bind_assoc]
          refine bind_congr fun x => ?_
          cases hx : sum.add x with
          | error fault =>
              simp only [ofExcept]
              rw [LawfulFailure.throw_bind, LawfulFailure.throw_bind]
          | ok next =>
              simp only [ofExcept, pure_bind]
              exact ih (Number.add_ne_negativeZero hsum hx)

/-- The empty cells can be left out of a total. -/
theorem total_eq_total_present
    {env : Environment m}
    (henv : env.ReadsEmpty)
    (cells : List Reference) :
    env.total cells = env.total (cells.filter fun r => !env.isEmpty r) :=
  foldlM_add_present henv cells (by simp)

/-- A function of a range depends on the cells that are not empty. -/
theorem aggregate_eq_aggregateOf
    {env : Environment m}
    (henv : env.ReadsEmpty)
    (f : Aggregate) (range : List Char) :
    env.aggregate f range = (do env.aggregateOf f (← ofExcept (env.present range))) := by
  unfold aggregate present
  cases env.rangeCells range with
  | error fault =>
      simp only [Except.map, ofExcept]
      rw [LawfulFailure.throw_bind, LawfulFailure.throw_bind]
  | ok cells =>
      simp only [Except.map, ofExcept, pure_bind]
      cases f with
      | sum => exact total_eq_total_present henv cells
      | average => rfl
      | count => rfl
      | least => rfl
      | greatest => rfl

end Lemmas

end Environment
end Formula
end Spreadsheet
