import Spreadsheet.Json.Reader
import Spreadsheet.Proofs.Json.Spelling

/-!
# Written values are read as themselves

A value whose objects have every key once is read as itself from its text, in
whichever layout it is written; an object in which a key occurs twice could not
be, since of two fields with one key only the last is kept.

Result: reading undoes writing (`parse_of_print`).
-/

namespace Spreadsheet
namespace Json

mutual

/-- No object within the value has a key twice. -/
def HasDistinctKeys : Json → Prop
  | .array items => ItemsHaveDistinctKeys items
  | .object fields => (fields.map Prod.fst).Nodup ∧ FieldsHaveDistinctKeys fields
  | _ => True

/-- No object within the items has a key twice. -/
def ItemsHaveDistinctKeys : List Json → Prop
  | [] => True
  | item :: rest => HasDistinctKeys item ∧ ItemsHaveDistinctKeys rest

/-- No object within the values of the fields has a key twice. -/
def FieldsHaveDistinctKeys : List (String × Json) → Prop
  | [] => True
  | (_, value) :: rest => HasDistinctKeys value ∧ FieldsHaveDistinctKeys rest

end

section Lemmas

theorem itemsHaveDistinctKeys_iff
    {items : List Json} :
    ItemsHaveDistinctKeys items ↔ ∀ item ∈ items, HasDistinctKeys item := by
  induction items with
  | nil => simp [ItemsHaveDistinctKeys]
  | cons item items ih => simp [ItemsHaveDistinctKeys, ih]

theorem fieldsHaveDistinctKeys_iff
    {fields : Fields} :
    FieldsHaveDistinctKeys fields ↔ ∀ field ∈ fields, HasDistinctKeys field.2 := by
  induction fields with
  | nil => simp [FieldsHaveDistinctKeys]
  | cons field fields ih => simp [FieldsHaveDistinctKeys, ih]

theorem setField_of_not_mem
    {fields : Fields} {key : String}
    (value : Json)
    (h : key ∉ fields.map Prod.fst) :
    setField fields key value = fields ++ [(key, value)] := by
  induction fields with
  | nil => rfl
  | cons field fields ih =>
      obtain ⟨k, v⟩ := field
      simp only [List.map_cons, List.mem_cons, not_or] at h
      rw [setField, if_neg (Ne.symm h.1), ih h.2, List.cons_append]

/-- Fields with distinct keys are those of their object. -/
theorem ofFields_of_nodup
    {fields : Fields}
    (h : (fields.map Prod.fst).Nodup) :
    ofFields fields = .object fields := by
  have hfold : ∀ (fields done : Fields), ((done ++ fields).map Prod.fst).Nodup →
      fields.foldl (fun fs field => setField fs field.1 field.2) done = done ++ fields := by
    intro fields
    induction fields with
    | nil => intro done _; simp
    | cons field fields ih =>
        intro done hnodup
        obtain ⟨k, v⟩ := field
        have hk : k ∉ done.map Prod.fst := by
          rw [List.map_append, List.map_cons, List.nodup_append] at hnodup
          exact fun hmem => hnodup.2.2 k hmem k (by simp) rfl
        have hstep := ih (done ++ [(k, v)]) (by simpa using hnodup)
        rw [← setField_of_not_mem v hk] at hstep
        rw [List.foldl_cons, hstep, setField_of_not_mem v hk]
        simp
  exact congrArg Json.object (hfold fields [] h)

theorem readFrom_firstItem
    {items : List Json}
    (hne : items ≠ [])
    (stack : List Opened) (rest : List Token) :
    readFrom stack .firstItem ([Token.comma].intercalate (itemSpellings items) ++ rest)
      = readFrom stack .value ([Token.comma].intercalate (itemSpellings items) ++ rest) := by
  obtain ⟨item, items, rfl⟩ := List.exists_cons_of_ne_nil hne
  obtain ⟨r, hr⟩ : ∃ r, [Token.comma].intercalate (itemSpellings (item :: items))
      = spelling item ++ r := by
    cases items with
    | nil => exact ⟨[], by simp [itemSpellings]⟩
    | cons second items => exact ⟨_, by rw [itemSpellings, itemSpellings,
        List.intercalate_cons_cons, List.append_assoc]⟩
  rw [hr]
  cases item <;> simp [spelling, readFrom]

theorem readFrom_firstKey
    {fields : Fields}
    (hne : fields ≠ [])
    (stack : List Opened) (done : Fields) (rest : List Token) :
    readFrom stack (.firstKey done) ([Token.comma].intercalate (fieldSpellings fields) ++ rest)
      = readFrom stack (.key done)
          ([Token.comma].intercalate (fieldSpellings fields) ++ rest) := by
  obtain ⟨⟨key, value⟩, fields, rfl⟩ := List.exists_cons_of_ne_nil hne
  cases fields with
  | nil => simp [fieldSpellings, readFrom]
  | cons second fields => simp [fieldSpellings, readFrom]

mutual

/-- The tokens that spell a value are read as the value. -/
theorem readFrom_spelling
    {value : Json}
    (h : value.HasDistinctKeys)
    (stack : List Opened) (rest : List Token) :
    readFrom stack .value (spelling value ++ rest) = readFrom stack (.separator value) rest := by
  cases value with
  | null => simp [spelling, readFrom, Token.value?]
  | bool b => simp [spelling, readFrom, Token.value?]
  | number x => simp [spelling, readFrom, Token.value?]
  | text s => simp [spelling, readFrom, Token.value?]
  | array items =>
      rw [HasDistinctKeys] at h
      cases items with
      | nil => simp [spelling, itemSpellings, readFrom]
      | cons item items =>
          have hitems := readFrom_itemSpellings h (by simp) [] stack rest
          rw [← readFrom_firstItem (by simp)] at hitems
          rw [spelling, List.cons_append, List.append_assoc]
          exact hitems
  | object fields =>
      rw [HasDistinctKeys] at h
      cases fields with
      | nil => simp [spelling, fieldSpellings, readFrom, ofFields]
      | cons field fields =>
          have hfields := readFrom_fieldSpellings h.2 (by simp) [] stack rest
          rw [← readFrom_firstKey (by simp), List.reverse_nil, List.nil_append,
            ofFields_of_nodup h.1] at hfields
          rw [spelling, List.cons_append, List.append_assoc]
          exact hfields

/-- The items that are still to come complete an array. -/
theorem readFrom_itemSpellings
    {items : List Json}
    (h : ItemsHaveDistinctKeys items)
    (hne : items ≠ [])
    (done : List Json) (stack : List Opened) (rest : List Token) :
    readFrom (.array done :: stack) .value
        ([Token.comma].intercalate (itemSpellings items) ++ .closeArray :: rest)
      = readFrom stack (.separator (.array (done.reverse ++ items))) rest := by
  cases items with
  | nil => exact absurd rfl hne
  | cons item items =>
      rw [ItemsHaveDistinctKeys] at h
      cases items with
      | nil =>
          rw [itemSpellings, itemSpellings, List.intercalate_singleton, readFrom_spelling h.1]
          simp [readFrom]
      | cons second items =>
          have hmore := readFrom_itemSpellings h.2 (by simp) (item :: done) stack rest
          rw [itemSpellings] at hmore ⊢
          rw [itemSpellings, List.intercalate_cons_cons, List.append_assoc, List.append_assoc,
            readFrom_spelling h.1, List.singleton_append, readFrom, hmore]
          simp

/-- The fields that are still to come complete an object. -/
theorem readFrom_fieldSpellings
    {fields : Fields}
    (h : FieldsHaveDistinctKeys fields)
    (hne : fields ≠ [])
    (done : Fields) (stack : List Opened) (rest : List Token) :
    readFrom stack (.key done)
        ([Token.comma].intercalate (fieldSpellings fields) ++ .closeObject :: rest)
      = readFrom stack (.separator (ofFields (done.reverse ++ fields))) rest := by
  cases fields with
  | nil => exact absurd rfl hne
  | cons field fields =>
      obtain ⟨key, value⟩ := field
      rw [FieldsHaveDistinctKeys] at h
      cases fields with
      | nil =>
          have hvalue := readFrom_spelling h.1 (.object done key :: stack) (.closeObject :: rest)
          rw [fieldSpellings, fieldSpellings, List.intercalate_singleton, List.cons_append,
            List.cons_append, readFrom]
          simp only [readFrom]
          rw [hvalue]
          simp [readFrom]
      | cons second fields =>
          obtain ⟨next, other⟩ := second
          have hmore := readFrom_fieldSpellings h.2 (by simp) ((key, value) :: done) stack rest
          rw [fieldSpellings] at hmore
          have hvalue := readFrom_spelling h.1 (.object done key :: stack)
            (.comma :: ([Token.comma].intercalate ((.text next :: .colon :: spelling other) ::
              fieldSpellings fields) ++ .closeObject :: rest))
          rw [fieldSpellings, fieldSpellings, List.intercalate_cons_cons, List.append_assoc,
            List.append_assoc, List.cons_append, List.cons_append, List.singleton_append]
          simp only [readFrom] at hvalue ⊢
          rw [hvalue, hmore]
          simp

end

theorem tokens_nil :
    tokens [] = [] := by
  rw [tokens]

/-- Reading undoes writing, also with blanks at the end. -/
theorem parse_of_print
    {layout : Layout} {value : Json} {text : String}
    (hvalue : value.HasDistinctKeys)
    (h : print layout value = .ok text)
    (gaps : String)
    (hgaps : IsGaps gaps.toList) :
    parse (text ++ gaps) = .ok value := by
  have hends : EndsNumber gaps.toList := by
    have := endsNumber_gaps hgaps endsNumber_nil
    rwa [List.append_nil] at this
  have hnone : tokens gaps.toList = [] := by
    have := tokens_gaps hgaps []
    rwa [List.append_nil, tokens_nil] at this
  have htokens := spells_write h gaps.toList hends
  rw [hnone] at htokens
  rw [parse, String.toList_append, htokens, readFrom_spelling hvalue]
  simp [readFrom]

end Lemmas

end Json
end Spreadsheet
