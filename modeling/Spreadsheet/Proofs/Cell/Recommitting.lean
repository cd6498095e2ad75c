import Spreadsheet.Proofs.Cell.Retyping
import Spreadsheet.Proofs.Document.Numbers

/-!
# Stored cells typed in again

A stored cell may hold what is never typed: a formula with a format, an amount below zero,
an amount without a format or of another one, a truth value that counts as a number.  The
text that such a cell offers for editing is taken for something else.

Result: of the formulas, numbers and amounts that can be written out, exactly those of the
form that typing gives them store an equal cell again (`retypes_iff_isRetypable`).
-/

namespace Spreadsheet
namespace Cell

/-- The formulas, numbers and amounts in the form that typing gives them. -/
inductive IsRetypable : Cell → Prop
  | formula
      {source : String} {hne : source ≠ ""}
      (htrimmed : Text.trimmed source = source)
      (hequals : source.front? = some '=') :
      IsRetypable (.formula source hne none)
  | number
      {x : Number}
      (hfinite : x.isFinite = true) :
      IsRetypable (.plain (.number x) .number none)
  | amount
      {x : Number} {amount : Binary64} {symbol : Char}
      (hsymbol : symbol ∈ Number.currencySymbols)
      (hequal : x.equal (.float amount) = true)
      (hfinite : amount.isFinite = true)
      (hsign : amount.isNegative = false) :
      IsRetypable (.plain (.number x) .currency (some (currencyFormat symbol)))

/-- The cell holds a formula, a number or an amount. -/
def IsComputed (c : Cell) : Prop :=
  c.typeName ∈ [formulaTypeName, Kind.currency.name, Kind.number.name]

instance (c : Cell) : Decidable c.IsComputed :=
  inferInstanceAs (Decidable (_ ∈ _))

section Lemmas

variable {c : Cell} {raw source : String}

/-- A text is taken for a formula only if an equals sign stands in front. -/
theorem front?_of_ofText
    (h : Entry.ofText raw = .ok (.formula source)) :
    (Text.trimmed raw).front? = some '=' := by
  unfold Entry.ofText at h
  simp only at h
  split at h
  case h_6 rest htrim =>
    rw [Text.trimmed, htrim, String.front?_eq, String.toList_ofList]
    rfl
  case h_7 =>
    split at h
    · next hcurrency =>
        obtain ⟨symbol, x, rfl⟩ := Entry.exists_of_currency? hcurrency
        cases h
    · obtain ⟨number, hnumber, h⟩ := bind_eq_ok_iff.1 h
      cases number with
      | some x => cases h
      | none =>
          have hwords := Except.ok.inj h
          unfold Entry.ofWords at hwords
          split at hwords <;> cases hwords
  all_goals cases h

/-- A formula without blanks around it is stored as it stands. -/
theorem ofInput?_of_trimmed
    (hne : source ≠ "")
    (htrimmed : Text.trimmed source = source)
    (hequals : source.front? = some '=') :
    ofInput? source = .ok (some (.formula source hne none)) := by
  rw [String.front?_eq] at hequals
  obtain ⟨rest, hsource⟩ := List.head?_eq_some_iff.1 hequals
  have htrim : Text.trim source.toList = '=' :: rest := by
    rw [← hsource, ← String.toList_ofList (l := Text.trim source.toList)]
    exact congrArg String.toList htrimmed
  have hentry : Entry.ofText source = .ok (.formula source) := by
    unfold Entry.ofText
    rw [htrim]
    simp only
    rw [← hsource, String.ofList_toList]
    rfl
  exact bind_eq_ok_iff.2 ⟨_, hentry, congrArg Except.ok (dif_neg hne)⟩

/-- Whatever offers a formula, a number or an amount stores it as it was typed. -/
theorem retypes_of_isRetypable
    (h : c.IsRetypable)
    (htext : c.HasText) :
    c.Retypes := by
  cases h with
  | formula htrimmed hequals =>
      exact retypes_same rfl (ofInput?_of_trimmed _ htrimmed hequals)
  | number hfinite => exact retypes_number hfinite (htext _ rfl)
  | amount hsymbol hequal hfinite hsign =>
      exact retypes_amount (htext _ rfl) hequal hfinite hsign hsymbol

/-- What is typed as a number or an amount. -/
theorem typed_cases
    {value : Scalar} {kind : Kind} {format : Option String}
    (h : ofInput? raw = .ok (some (.plain value kind format)))
    (hkind : kind = .number ∨ kind = .currency) :
    (kind = .number ∧ format = none ∧ ∃ x : Number, value = .number x ∧ x.isFinite = true)
      ∨ kind = .currency ∧ ∃ symbol ∈ Number.currencySymbols, ∃ amount : Binary64,
        format = some (currencyFormat symbol) ∧ value = .number (.float amount)
          ∧ amount.isFinite = true ∧ amount.isNegative = false := by
  obtain ⟨entry, hentry, h⟩ := bind_eq_ok_iff.1 h
  have hcell := Except.ok.inj h
  cases Entry.isReading_of_ofText hentry with
  | nothing => cases hcell
  | formula =>
      obtain ⟨hne, hcell⟩ := Option.dite_none_left_eq_some.1 hcell
      cases hcell
  | amount hsymbol hfinite hsign =>
      cases hcell
      exact .inr ⟨rfl, _, hsymbol, _, rfl, rfl, hfinite, hsign⟩
  | number hfinite htext =>
      cases hcell
      exact .inl ⟨rfl, rfl, _, rfl, hfinite⟩
  | checkbox checked | date | text =>
      cases hcell
      rcases hkind with hkind | hkind <;> cases hkind

theorem isRetypable_of_retypes
    (h : c.Retypes)
    (hcomputed : c.IsComputed) :
    c.IsRetypable := by
  obtain ⟨text, htext, c', hinput, hequal⟩ := h
  cases c with
  | blank => exact absurd hcomputed (by decide)
  | formula source hne format =>
      obtain rfl := Except.ok.inj htext
      obtain rfl := eq_of_equal_formula hequal
      obtain ⟨entry, hentry, h⟩ := bind_eq_ok_iff.1 hinput
      have hcell := Except.ok.inj h
      cases Entry.isReading_of_ofText hentry with
      | formula =>
          obtain ⟨hne', hcell⟩ := Option.dite_none_left_eq_some.1 hcell
          obtain ⟨htrimmed, rfl⟩ := Cell.formula.inj (Option.some.inj hcell)
          refine .formula htrimmed ?_
          rw [← htrimmed]
          exact front?_of_ofText hentry
      | _ => cases hcell
  | plain value kind format =>
      have hkind : kind = .number ∨ kind = .currency := by
        cases kind <;> revert hcomputed <;> simp [IsComputed, typeName, formulaTypeName, Kind.name]
      obtain ⟨value', rfl, hvalue⟩ := exists_of_equal_plain hequal
      have hcases := typed_cases hinput hkind
      cases value with
      | bool checked =>
          obtain rfl := Except.ok.inj htext
          have hbox : ofInput? (if checked then "[x]" else "[ ]")
              = .ok (some (.plain (.bool checked) .checkbox none)) := by
            cases checked <;> decide
          cases hbox.symm.trans hinput
          rcases hkind with hkind | hkind <;> cases hkind
      | text text =>
          obtain rfl := eq_of_equal_text hvalue
          rcases hcases with ⟨-, -, x, hx, -⟩ | ⟨-, symbol, -, amount, -, hx, -⟩ <;> cases hx
      | number x =>
          rcases hcases with ⟨rfl, rfl, y, rfl, hfinite⟩
            | ⟨rfl, symbol, hsymbol, amount, rfl, rfl, hfinite, hsign⟩
          · exact .number (Number.isFinite_of_equal (by rw [Number.equal_comm]; exact hvalue) hfinite)
          · exact .amount hsymbol (by rw [Number.equal_comm]; exact hvalue) hfinite hsign

/-- Of the cells that can be written out, a formula, a number or an amount stores an equal
cell again exactly if it has the form that typing gives it. -/
theorem retypes_iff_isRetypable
    (hcomputed : c.IsComputed)
    (htext : c.HasText) :
    c.Retypes ↔ c.IsRetypable :=
  ⟨fun h => isRetypable_of_retypes h hcomputed, fun h => retypes_of_isRetypable h htext⟩

end Lemmas

end Cell
end Spreadsheet
