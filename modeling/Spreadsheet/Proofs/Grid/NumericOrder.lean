import Spreadsheet.Proofs.Grid.Ordering
import Spreadsheet.Proofs.Number.Rounding

/-!
# The numbers of a sorted column

A column is sorted by the binary numbers of its cells.  Rounding keeps the order of
numbers, so where no cell has a formula the numbers themselves come out in order, as
far as rounding tells them apart.  An integer beyond the range of the binary numbers
is none of them: it is sorted as if it were zero.

Result: two rows of a sorted column are in the wrong order only if one of their
numbers is beyond the range or both are rounded to the same (`inOrder_of_sort`).
-/

namespace Spreadsheet

/-- Two numbers may follow each other in a column that is sorted in a direction. -/
def Number.InOrder (ascending : Bool) (x y : Number) : Prop :=
  (if ascending then y.less x else x.less y) = false

/-- There is no binary number for one of two numbers, or it is the same for both. -/
inductive Number.SameKey (x y : Number) : Prop
  | beyond
      (h : x.toBinary64 = .error .tooLarge ∨ y.toBinary64 = .error .tooLarge)
  | rounded {a b : Binary64}
      (ha : x.toBinary64 = .ok a)
      (hb : y.toBinary64 = .ok b)
      (h : (Number.float a).equal (.float b) = true)

section Lemmas

namespace Number

variable {x y : Number} {a b : Binary64}

theorem toBinary64_cases
    (x : Number) :
    (∃ a, x.toBinary64 = .ok a) ∨ x.toBinary64 = .error .tooLarge := by
  cases x with
  | float x => exact .inl ⟨x, rfl⟩
  | int i =>
      rw [toBinary64]
      cases Binary64.ofInt? i with
      | none => exact .inr rfl
      | some x => exact .inl ⟨x, rfl⟩

/-- Numbers whose order the sort has turned round are rounded to the same. -/
theorem equal_of_less_of_atMost
    (hless : y.less x = true)
    (ha : x.toBinary64 = .ok a)
    (hb : y.toBinary64 = .ok b)
    (hkeys : a.AtMost b) :
    (Number.float a).equal (.float b) = true := by
  obtain ⟨q, p, hq, hp, hle⟩ := toBinary64_mono hless hb ha
  have hge := Binary64.sortsBefore_iff.2 hkeys
  unfold Binary64.sortsBefore at hge
  simp only [hp, hq, bne_iff_ne, ne_eq] at hge
  have hswap := Place.compare_swap p q
  simp only [equal, order?, place?, hp, hq]
  cases h : p.compare q with
  | eq => rfl
  | gt => exact absurd h hge
  | lt =>
      rw [h] at hswap
      exact absurd hswap.symm hle

/-- Keys in order leave numbers in the wrong order only if they do not tell the
numbers apart. -/
theorem inOrder_or_sameKey
    (ascending : Bool)
    (hkeys : ∀ a b, x.toBinary64 = .ok a → y.toBinary64 = .ok b →
      if ascending then a.AtMost b else b.AtMost a) :
    InOrder ascending x y ∨ SameKey x y := by
  rw [or_iff_not_imp_left]
  intro hwrong
  rw [InOrder, Bool.not_eq_false] at hwrong
  rcases toBinary64_cases x with ⟨a, ha⟩ | ha
  case inr => exact .beyond (.inl ha)
  rcases toBinary64_cases y with ⟨b, hb⟩ | hb
  case inr => exact .beyond (.inr hb)
  have hkeys := hkeys a b ha hb
  refine .rounded ha hb ?_
  cases ascending with
  | true => exact equal_of_less_of_atMost hwrong ha hb hkeys
  | false =>
      rw [equal_comm]
      exact equal_of_less_of_atMost hwrong hb ha hkeys

end Number

end Lemmas

namespace Grid

/-- No number that the grid stores is infinite or undefined. -/
def HasFiniteNumbers (g : Grid) : Prop :=
  ∀ r, ∀ c ∈ g.get? r, ∀ x, c.value? = some (.number x) → x.isFinite = true

section Lemmas

variable {g g' : Grid} {today : Date} {col : Nat} {ascending : Bool} {frozen : Int}

/-- Without formulas the keys of a column that was sorted by numbers are in order. -/
theorem atMost_of_sort
    (hplain : g.HasNoFormulas)
    (hcol : g.HasColumn col)
    (hnumber : g.SortsByNumber today col frozen.toNat)
    (hsort : g.sortByColumn? today col ascending frozen = .ok (some g'))
    (later : Date) {i j : Nat}
    (hi : frozen.toNat ≤ i)
    (hlt : i < j)
    (hj : j < g'.rowCount) :
    if ascending then (g'.numberKey later col i).AtMost (g'.numberKey later col j)
      else (g'.numberKey later col j).AtMost (g'.numberKey later col i) := by
  by_cases hrows : frozen.toNat + 2 ≤ g.rowCount
  case neg =>
    rw [sortByColumn?_of_few_rows hcol hrows] at hsort
    obtain rfl := Option.some.inj (Except.ok.inj hsort)
    omega
  have hk : frozen.toNat ≤ g.rowCount := by omega
  obtain ⟨sorted, hsorted, hperm, hpairs⟩ :=
    exists_sorted_by_number hplain hcol hrows hnumber ascending
  rw [hsorted] at hsort
  obtain rfl := Option.some.inj (Except.ok.inj hsort)
  generalize hg' : g.withSorted frozen.toNat sorted = g' at hj ⊢
  have hkeys : (g'.numberKeys later col frozen.toNat).Pairwise fun a b =>
      (if ascending then a.sortsBefore b else b.sortsBefore a) = true := by
    subst hg'
    rw [numberKeys_of_hasNoFormulas (hasNoFormulas_withSorted hperm hplain), drop_withSorted hk,
      List.pairwise_map]
    exact hpairs
  rw [numberKeys, List.pairwise_map] at hkeys
  have hlength : (List.range' frozen.toNat (g'.rowCount - frozen.toNat)).length
      = g'.rowCount - frozen.toNat := List.length_range'
  have hij := List.pairwise_iff_getElem.1 hkeys (i - frozen.toNat) (j - frozen.toNat)
    (by omega) (by omega) (by omega)
  rw [List.getElem_range', List.getElem_range', Nat.one_mul, Nat.one_mul,
    Nat.add_sub_cancel' hi, Nat.add_sub_cancel' (Nat.le_trans hi (Nat.le_of_lt hlt))] at hij
  cases ascending with
  | true => exact Binary64.sortsBefore_iff.1 hij
  | false => exact Binary64.sortsBefore_iff.1 hij

theorem exists_sort_by_number
    (hcol : g.HasColumn col)
    (hnumber : g.SortsByNumber today col frozen.toNat) (ascending : Bool) :
    ∃ g', g.sortByColumn? today col ascending frozen = .ok (some g') := by
  by_cases hrows : frozen.toNat + 2 ≤ g.rowCount
  · exact ⟨_, sortByColumn?_by_number hcol hrows hnumber ascending⟩
  · exact ⟨g, sortByColumn?_of_few_rows hcol hrows today ascending⟩

/-- What a sort by numbers does to the numbers of its column.  It goes by numbers if
one of them is not zero and within the range of the binary numbers. -/
theorem inOrder_of_sort
    (g : Grid) (today : Date) (col : Nat) (ascending : Bool) (frozen : Int)
    (hplain : g.HasNoFormulas)
    (hcol : g.HasColumn col)
    (hnumber : ∃ row, frozen.toNat ≤ row ∧ row < g.rowCount
      ∧ (g.numericValue today col row).isZero = false
      ∧ ∃ a, (g.numericValue today col row).toBinary64 = .ok a) :
    ∃ g', g.sortByColumn? today col ascending frozen = .ok (some g')
      ∧ ∀ later : Date, ∀ i j : Nat, frozen.toNat ≤ i → i < j → j < g'.rowCount →
        Number.InOrder ascending (g'.numericValue later col i) (g'.numericValue later col j)
          ∨ Number.SameKey (g'.numericValue later col i) (g'.numericValue later col j) := by
  have hkey : ∀ {g : Grid} {today : Date} {row : Nat} {a : Binary64},
      (g.numericValue today col row).toBinary64 = .ok a → g.numberKey today col row = a := by
    intro g today row a ha
    rw [numberKey, ha]
    rfl
  have hsorts : g.SortsByNumber today col frozen.toNat := by
    obtain ⟨row, hfrom, hto, hzero, a, ha⟩ := hnumber
    refine ⟨row, hfrom, hto, ?_⟩
    rw [hkey ha, ← Bool.not_eq_true]
    intro hkeyZero
    rw [Number.isZero_of_toBinary64 ha hkeyZero] at hzero
    cases hzero
  obtain ⟨g', hsort⟩ := exists_sort_by_number hcol hsorts ascending
  refine ⟨g', hsort, fun later i j hi hlt hj => Number.inOrder_or_sameKey ascending ?_⟩
  intro a b ha hb
  have := atMost_of_sort hplain hcol hsorts hsort later hi hlt hj
  rwa [hkey ha, hkey hb] at this

/-- An integer beyond the range of the binary numbers, and two that are rounded to the
same. -/
def farApart : Grid where
  minColumns := .int 1
  rows := [[some (.plain (.text "n") .text none)],
    [some (.plain (.number (.int (10 ^ 400))) .number none)],
    [some (.plain (.number (.int 5)) .number none)],
    [some (.plain (.number (.int (2 ^ 53 + 1))) .number none)],
    [some (.plain (.number (.int (2 ^ 53))) .number none)]]
  history := .empty History.defaultLimit

theorem hasNoFormulas_farApart :
    farApart.HasNoFormulas := by
  rw [HasNoFormulas, forall_get?_iff]
  decide

theorem hasColumn_farApart :
    farApart.HasColumn 0 :=
  ⟨by decide, by decide +kernel⟩

theorem inOrder_of_sort_farApart :
    farApart.HasNoFormulas ∧ farApart.HasColumn (0 : Nat)
      ∧ ∃ g', farApart.sortByColumn? ⟨2024, 3, 9, by decide⟩ (0 : Nat) false 1 = .ok (some g')
        ∧ ∀ later : Date, ∀ i j : Nat, (1 : Int).toNat ≤ i → i < j → j < g'.rowCount →
          Number.InOrder false (g'.numericValue later (0 : Nat) i)
              (g'.numericValue later (0 : Nat) j)
            ∨ Number.SameKey (g'.numericValue later (0 : Nat) i)
              (g'.numericValue later (0 : Nat) j) :=
  ⟨hasNoFormulas_farApart, hasColumn_farApart,
    inOrder_of_sort farApart ⟨2024, 3, 9, by decide⟩ 0 false 1 hasNoFormulas_farApart
      hasColumn_farApart
      ⟨2, by decide, by decide, by decide +kernel, exists_eq_ok (by decide +kernel)⟩⟩

/-- All numbers of the column are finite and one below the heading is not zero, but
the sort leaves it as it is, though it decreases twice. -/
theorem decreases_farApart :
    farApart.HasNoFormulas ∧ farApart.HasFiniteNumbers ∧ farApart.HasColumn 0
      ∧ (farApart.numericValue ⟨2024, 3, 9, by decide⟩ 0 2).isZero = false
      ∧ ∃ g', farApart.sortByColumn? ⟨2024, 3, 9, by decide⟩ 0 true 1 = .ok (some g')
        ∧ (g'.numericValue ⟨2024, 3, 9, by decide⟩ 0 2).less
            (g'.numericValue ⟨2024, 3, 9, by decide⟩ 0 1) = true
        ∧ (g'.numericValue ⟨2024, 3, 9, by decide⟩ 0 4).less
            (g'.numericValue ⟨2024, 3, 9, by decide⟩ 0 3) = true := by
  have hfinite : farApart.HasFiniteNumbers := by
    have hrows : ∀ row ∈ farApart.rows, ∀ cell ∈ row, ∀ c ∈ cell,
        (c.value?.bind Scalar.comparand?).all Number.isFinite = true := by
      decide
    rw [HasFiniteNumbers, forall_get?_iff]
    intro row hrow cell hcell c hc x hx
    have hnumber := hrows row hrow cell hcell c hc
    rw [hx] at hnumber
    exact hnumber
  have hnumber : farApart.SortsByNumber ⟨2024, 3, 9, by decide⟩ (0 : Int).toNat (1 : Int).toNat :=
    ⟨2, by decide, by decide, by decide +kernel⟩
  have hsort := sortByColumn?_by_number hasColumn_farApart (show (1 : Int).toNat + 2 ≤ 5 by decide)
    hnumber true
  have hsorted : (farApart.rows.drop (1 : Int).toNat).Pairwise fun a b =>
      (if true then (plainNumber a[(0 : Int).toNat]?.join).sortsBefore
          (plainNumber b[(0 : Int).toNat]?.join)
        else (plainNumber b[(0 : Int).toNat]?.join).sortsBefore
          (plainNumber a[(0 : Int).toNat]?.join)) = true := by
    decide +kernel
  rw [numberKeys_of_hasNoFormulas hasNoFormulas_farApart, sortedBy_zip_of_pairwise hsorted] at hsort
  exact ⟨hasNoFormulas_farApart, hfinite, hasColumn_farApart, by decide +kernel, _, hsort,
    by decide +kernel, by decide +kernel⟩

end Lemmas

end Grid
end Spreadsheet
