import Spreadsheet.Event
import Spreadsheet.Proofs.Json.Printing
import Spreadsheet.Proofs.Json.RoundTrip

/-!
# Storing a value

What is stored for a value has null for every number that is not finite, and its fields, and
those of the values in it, are in the order of their keys.  It holds no number that the value
does not hold, no object gets a key twice, and every key leads to what is stored for what it
led to.

Results: storing adds no numbers (`holds_of_holds_stored`) and no keys
(`hasDistinctKeys_stored`), it keeps the fields (`getField?_storedFields`), and a value of
finite numbers is only put in order (`withoutNonFinite_of_isFinite`).
-/

namespace Spreadsheet
namespace Json

/-- What is stored for a value. -/
def stored (value : Json) : Json := value.withoutNonFinite.sortKeys

/-- The fields of an object with other values. -/
def mapValues (change : Json → Json) (fields : Fields) : Fields :=
  fields.map fun field => (field.1, change field.2)

/-- The fields of an object as they are stored. -/
def storedFields (fields : Fields) : Fields :=
  (mapValues stored fields).mergeSort fun a b => a.1 ≤ b.1

section Lemmas

variable {x : Number}

/-! Members. -/

/-- Induction over a value, the items of its arrays and the values of its fields. -/
@[elab_as_elim]
theorem induction_members
    {motive : Json → Prop}
    (null : motive .null)
    (bool : ∀ b, motive (.bool b))
    (number : ∀ x, motive (.number x))
    (text : ∀ s, motive (.text s))
    (array : ∀ items, (∀ item ∈ items, motive item) → motive (.array items))
    (object : ∀ fields : Fields, (∀ field ∈ fields, motive field.2) → motive (.object fields))
    (value : Json) :
    motive value :=
  @Json.rec motive (fun items => ∀ item ∈ items, motive item)
    (fun fields => ∀ field ∈ fields, motive field.2) (fun field => motive field.2)
    null bool number text array object
    (List.forall_mem_nil _) (fun _ _ hitem hitems => List.forall_mem_cons.2 ⟨hitem, hitems⟩)
    (List.forall_mem_nil _) (fun _ _ hfield hfields => List.forall_mem_cons.2 ⟨hfield, hfields⟩)
    (fun _ _ hvalue => hvalue) value

theorem sortItems_eq_map
    (items : List Json) :
    sortItems items = items.map sortKeys := by
  induction items with
  | nil => rfl
  | cons item items ih => rw [sortItems, ih, List.map_cons]

theorem withoutNonFiniteItems_eq_map
    (items : List Json) :
    withoutNonFiniteItems items = items.map withoutNonFinite := by
  induction items with
  | nil => rfl
  | cons item items ih => rw [withoutNonFiniteItems, ih, List.map_cons]

theorem sortFields_eq_mapValues
    (fields : Fields) :
    sortFields fields = mapValues sortKeys fields := by
  induction fields with
  | nil => rfl
  | cons field fields ih => rw [sortFields, ih, mapValues, mapValues, List.map_cons]

theorem withoutNonFiniteFields_eq_mapValues
    (fields : Fields) :
    withoutNonFiniteFields fields = mapValues withoutNonFinite fields := by
  induction fields with
  | nil => rfl
  | cons field fields ih => rw [withoutNonFiniteFields, ih, mapValues, mapValues, List.map_cons]

theorem sortKeys_array
    (items : List Json) :
    sortKeys (.array items) = .array (items.map sortKeys) := by
  rw [sortKeys, sortItems_eq_map]

theorem sortKeys_object
    (fields : Fields) :
    sortKeys (.object fields)
      = .object ((mapValues sortKeys fields).mergeSort fun a b => a.1 ≤ b.1) := by
  rw [sortKeys, sortFields_eq_mapValues]

theorem withoutNonFinite_array
    (items : List Json) :
    withoutNonFinite (.array items) = .array (items.map withoutNonFinite) := by
  rw [withoutNonFinite, withoutNonFiniteItems_eq_map]

theorem withoutNonFinite_object
    (fields : Fields) :
    withoutNonFinite (.object fields) = .object (mapValues withoutNonFinite fields) := by
  rw [withoutNonFinite, withoutNonFiniteFields_eq_mapValues]

/-- The fields of an object are stored in the order of their keys. -/
theorem stored_object
    (fields : Fields) :
    stored (.object fields) = .object (storedFields fields) := by
  rw [stored, withoutNonFinite_object, sortKeys_object, mapValues, mapValues, List.map_map]
  rfl

/-! Fields. -/

theorem keys_mapValues
    (change : Json → Json) (fields : Fields) :
    (mapValues change fields).map Prod.fst = fields.map Prod.fst := by
  rw [mapValues, List.map_map]
  rfl

theorem getField?_mapValues
    (change : Json → Json) (fields : Fields) (key : String) :
    getField? (mapValues change fields) key = (getField? fields key).map change := by
  unfold getField? mapValues
  induction fields with
  | nil => rfl
  | cons field fields ih =>
      obtain ⟨k, value⟩ := field
      rw [List.map_cons, List.lookup_cons, List.lookup_cons]
      cases key == k with
      | true => rfl
      | false => exact ih

/-- Where no key occurs twice, the value of a key is that of its field. -/
theorem getField?_eq_some_iff
    {fields : Fields} {key : String} {value : Json}
    (h : (fields.map Prod.fst).Nodup) :
    getField? fields key = some value ↔ (key, value) ∈ fields := by
  unfold getField?
  constructor
  · intro hvalue
    obtain ⟨before, after, rfl, -⟩ := List.lookup_eq_some_iff.1 hvalue
    exact List.mem_append_right _ List.mem_cons_self
  · intro hmem
    obtain ⟨before, after, rfl⟩ := List.append_of_mem hmem
    refine List.lookup_eq_some_iff.2 ⟨before, after, rfl, fun field hfield => ?_⟩
    rw [List.map_append, List.map_cons, List.nodup_append] at h
    have hne : field.1 ≠ key :=
      h.2.2 field.1 (List.mem_map_of_mem hfield) key List.mem_cons_self
    simpa using hne.symm

/-- Every key leads to what is stored for what it led to before. -/
theorem getField?_storedFields
    {fields : Fields}
    (h : (fields.map Prod.fst).Nodup)
    (key : String) :
    getField? (storedFields fields) key = (getField? fields key).map stored := by
  have hperm : (storedFields fields).Perm (mapValues stored fields) := List.mergeSort_perm _ _
  rw [← keys_mapValues stored] at h
  have hsorted := (hperm.map Prod.fst).nodup_iff.2 h
  rw [← getField?_mapValues]
  refine Option.ext fun value => ?_
  rw [getField?_eq_some_iff hsorted, getField?_eq_some_iff h]
  exact hperm.mem_iff

/-! Numbers. -/

theorem holds_object_of_perm
    {fields fields' : Fields}
    (h : fields.Perm fields') :
    Holds x (.object fields) ↔ Holds x (.object fields') := by
  simp only [holds_object_iff, FieldsHold, h.mem_iff]

theorem holds_mapValues_iff
    {change : Json → Json} {fields : Fields} :
    Holds x (.object (mapValues change fields)) ↔ ∃ field ∈ fields, Holds x (change field.2) := by
  simp only [holds_object_iff, FieldsHold, mapValues, List.mem_map, exists_exists_and_eq_and]

/-- A value in order holds the same numbers. -/
theorem holds_sortKeys_iff
    (value : Json) :
    Holds x value.sortKeys ↔ Holds x value := by
  induction value using induction_members with
  | null => rfl
  | bool b => rfl
  | number y => rfl
  | text s => rfl
  | array items ih =>
      simp only [sortKeys_array, holds_array_iff, List.mem_map, exists_exists_and_eq_and]
      exact exists_congr fun item => and_congr_right (ih item)
  | object fields ih =>
      rw [sortKeys_object, holds_object_of_perm (List.mergeSort_perm _ _), holds_mapValues_iff,
        holds_object_iff]
      exact exists_congr fun field => and_congr_right (ih field)

/-- Taking numbers out adds none. -/
theorem holds_of_holds_withoutNonFinite
    {value : Json}
    (h : Holds x value.withoutNonFinite) :
    Holds x value := by
  induction value using induction_members with
  | null => exact h
  | bool b => exact h
  | number y =>
      rw [withoutNonFinite] at h
      split at h
      · exact h
      · exact absurd h not_holds_null
  | text s => exact h
  | array items ih =>
      simp only [withoutNonFinite_array, holds_array_iff, List.mem_map,
        exists_exists_and_eq_and] at h
      obtain ⟨item, hitem, h⟩ := h
      exact .item hitem (ih item hitem h)
  | object fields ih =>
      rw [withoutNonFinite_object, holds_mapValues_iff] at h
      obtain ⟨field, hfield, h⟩ := h
      exact .field hfield (ih field hfield h)

/-- What is stored holds no other numbers. -/
theorem holds_of_holds_stored
    {value : Json}
    (h : Holds x value.stored) :
    Holds x value :=
  holds_of_holds_withoutNonFinite ((holds_sortKeys_iff _).1 h)

/-- A value of finite numbers is only put in order. -/
theorem withoutNonFinite_of_isFinite
    {value : Json}
    (h : ∀ x, Holds x value → x.isFinite = true) :
    value.withoutNonFinite = value := by
  induction value using induction_members with
  | null => rfl
  | bool b => rfl
  | number y => rw [withoutNonFinite, if_pos (h y .number)]
  | text s => rfl
  | array items ih =>
      have hitems : items.map withoutNonFinite = items.map id :=
        List.map_congr_left fun item hitem => ih item hitem fun x hx => h x (.item hitem hx)
      rw [withoutNonFinite_array, hitems, List.map_id]
  | object fields ih =>
      have hfields : mapValues withoutNonFinite fields = fields.map id :=
        List.map_congr_left fun field hfield =>
          Prod.ext rfl (ih field hfield fun x hx => h x (.field hfield hx))
      rw [withoutNonFinite_object, hfields, List.map_id]

/-! Keys. -/

theorem hasDistinctKeys_array_iff
    {items : List Json} :
    (Json.array items).HasDistinctKeys ↔ ∀ item ∈ items, item.HasDistinctKeys := by
  rw [HasDistinctKeys, itemsHaveDistinctKeys_iff]

theorem hasDistinctKeys_object_iff
    {fields : Fields} :
    (Json.object fields).HasDistinctKeys
      ↔ (fields.map Prod.fst).Nodup ∧ ∀ field ∈ fields, field.2.HasDistinctKeys := by
  rw [HasDistinctKeys, fieldsHaveDistinctKeys_iff]

/-- Another order leaves the keys distinct. -/
theorem hasDistinctKeys_object_of_perm
    {fields fields' : Fields}
    (hperm : fields.Perm fields')
    (h : (Json.object fields').HasDistinctKeys) :
    (Json.object fields).HasDistinctKeys := by
  rw [hasDistinctKeys_object_iff] at h ⊢
  exact ⟨(hperm.map Prod.fst).nodup_iff.2 h.1,
    fun field hfield => h.2 field (hperm.mem_iff.1 hfield)⟩

/-- Other values leave the keys distinct, if they have distinct keys themselves. -/
theorem hasDistinctKeys_mapValues
    {change : Json → Json} {fields : Fields}
    (hkeys : (fields.map Prod.fst).Nodup)
    (h : ∀ field ∈ fields, (change field.2).HasDistinctKeys) :
    (Json.object (mapValues change fields)).HasDistinctKeys := by
  rw [hasDistinctKeys_object_iff, keys_mapValues, mapValues, List.forall_mem_map]
  exact ⟨hkeys, h⟩

/-- No object of a value in order has a key twice, if none had before. -/
theorem hasDistinctKeys_sortKeys
    {value : Json}
    (h : value.HasDistinctKeys) :
    value.sortKeys.HasDistinctKeys := by
  induction value using induction_members with
  | null => exact h
  | bool b => exact h
  | number y => exact h
  | text s => exact h
  | array items ih =>
      rw [hasDistinctKeys_array_iff] at h
      rw [sortKeys_array, hasDistinctKeys_array_iff, List.forall_mem_map]
      exact fun item hitem => ih item hitem (h item hitem)
  | object fields ih =>
      rw [hasDistinctKeys_object_iff] at h
      rw [sortKeys_object]
      refine hasDistinctKeys_object_of_perm (List.mergeSort_perm _ _) ?_
      exact hasDistinctKeys_mapValues h.1 fun field hfield => ih field hfield (h.2 field hfield)

/-- Numbers that are taken out leave the keys as they are. -/
theorem hasDistinctKeys_withoutNonFinite
    {value : Json}
    (h : value.HasDistinctKeys) :
    value.withoutNonFinite.HasDistinctKeys := by
  induction value using induction_members with
  | null => exact h
  | bool b => exact h
  | number y =>
      rw [withoutNonFinite]
      split <;> exact trivial
  | text s => exact h
  | array items ih =>
      rw [hasDistinctKeys_array_iff] at h
      rw [withoutNonFinite_array, hasDistinctKeys_array_iff, List.forall_mem_map]
      exact fun item hitem => ih item hitem (h item hitem)
  | object fields ih =>
      rw [hasDistinctKeys_object_iff] at h
      rw [withoutNonFinite_object]
      exact hasDistinctKeys_mapValues h.1 fun field hfield => ih field hfield (h.2 field hfield)

/-- No object of what is stored has a key twice, if none had before. -/
theorem hasDistinctKeys_stored
    {value : Json}
    (h : value.HasDistinctKeys) :
    value.stored.HasDistinctKeys :=
  hasDistinctKeys_sortKeys (hasDistinctKeys_withoutNonFinite h)

end Lemmas

end Json
end Spreadsheet
