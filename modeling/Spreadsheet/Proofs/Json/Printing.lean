import Spreadsheet.Json.Printer
import Spreadsheet.Proofs.Json.Holding

/-!
# What can be printed

Texts, truth values and brackets are always written, and so only a number can keep a value
from being printed: an integer of too many digits or, where the layout wants finite numbers,
one that is not.

Result: a value is printed exactly if its layout admits every number that it holds
(`exists_write_iff`).
-/

namespace Spreadsheet
namespace Json

/-- The layout has a text for the number. -/
def Layout.Admits (layout : Layout) (x : Number) : Prop :=
  x.HasText ∧ (layout.finiteOnly = true → x.isFinite = true)

section Lemmas

variable {x : Number}

theorem exists_integerText_iff
    {i : Int} :
    (∃ text, integerText i = .ok text) ↔ IsWritable i := by
  unfold integerText
  split <;> simp [*]

theorem exists_numberText_iff
    {layout : Layout} :
    (∃ text, numberText layout x = .ok text) ↔ layout.Admits x := by
  cases x with
  | int i =>
      rw [numberText, exists_integerText_iff]
      exact (and_iff_left fun _ => rfl).symm
  | float x =>
      rw [Layout.Admits, numberText, Number.HasText, Number.isFinite]
      cases layout.finiteOnly <;> cases x.isFinite <;> simp

theorem not_holds_null :
    ¬ Holds x .null := by
  rintro ⟨⟩

theorem not_holds_bool
    {b : Bool} :
    ¬ Holds x (.bool b) := by
  rintro ⟨⟩

theorem not_holds_text
    {s : String} :
    ¬ Holds x (.text s) := by
  rintro ⟨⟩

theorem not_holds_nil :
    ¬ Holds x (.array []) ∧ ¬ Holds x (.object []) := by
  simp [holds_array_iff, holds_object_iff, FieldsHold]

theorem holds_cons_item_iff
    {item : Json} {items : List Json} :
    Holds x (.array (item :: items)) ↔ Holds x item ∨ Holds x (.array items) := by
  simp only [holds_array_iff, List.mem_cons, exists_eq_or_imp]

theorem holds_cons_field_iff
    {key : String} {value : Json} {fields : Fields} :
    Holds x (.object ((key, value) :: fields)) ↔ Holds x value ∨ Holds x (.object fields) := by
  simp only [holds_object_iff, fieldsHold_cons]

mutual

/-- A value is printed exactly if its layout admits every number that it holds. -/
theorem exists_write_iff
    (layout : Layout) (depth : Nat) (value : Json) :
    (∃ text, write layout depth value = .ok text) ↔ ∀ x, Holds x value → layout.Admits x := by
  cases value with
  | null => exact iff_of_true ⟨_, rfl⟩ fun _ hx => absurd hx not_holds_null
  | bool b => cases b <;> exact iff_of_true ⟨_, rfl⟩ fun _ hx => absurd hx not_holds_bool
  | number x => simp only [write, exists_numberText_iff, holds_number_iff, forall_eq]
  | text s => exact iff_of_true ⟨_, rfl⟩ fun _ hx => absurd hx not_holds_text
  | array items =>
      rw [write, exists_bind_pure_eq_ok_iff]
      exact exists_writeItems_iff layout (depth + 1) items
  | object fields =>
      rw [write, exists_bind_pure_eq_ok_iff]
      exact exists_writeFields_iff layout (depth + 1) fields

theorem exists_writeItems_iff
    (layout : Layout) (depth : Nat) (items : List Json) :
    (∃ texts, writeItems layout depth items = .ok texts)
      ↔ ∀ x, Holds x (.array items) → layout.Admits x := by
  cases items with
  | nil => exact iff_of_true ⟨_, rfl⟩ fun _ hx => absurd hx not_holds_nil.1
  | cons item items =>
      rw [writeItems, exists_bind_eq_ok_iff]
      simp only [exists_bind_pure_eq_ok_iff, exists_writeItems_iff layout depth items,
        exists_and_right, exists_write_iff layout depth item, holds_cons_item_iff, or_imp,
        forall_and]

theorem exists_writeFields_iff
    (layout : Layout) (depth : Nat) (fields : List (String × Json)) :
    (∃ texts, writeFields layout depth fields = .ok texts)
      ↔ ∀ x, Holds x (.object fields) → layout.Admits x := by
  cases fields with
  | nil => exact iff_of_true ⟨_, rfl⟩ fun _ hx => absurd hx not_holds_nil.2
  | cons field fields =>
      obtain ⟨key, value⟩ := field
      rw [writeFields, exists_bind_eq_ok_iff]
      simp only [exists_bind_pure_eq_ok_iff, exists_writeFields_iff layout depth fields,
        exists_and_right, exists_write_iff layout depth value, holds_cons_field_iff, or_imp,
        forall_and]

end

end Lemmas

end Json
end Spreadsheet
