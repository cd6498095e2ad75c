import Spreadsheet.EventLog
import Spreadsheet.Proofs.Json.Graphic
import Spreadsheet.Proofs.Json.Storing

/-!
# Entries of a log

What is logged is an event with the text of the time at which it happened.  An event whose
integers can be written and whose objects have every key once is written on a line of graphic
characters.  The line reads back as what is stored for the event, and a query wants that
exactly if the event is of the level and the kind that it asks for.

Results: an entry has a line that reads back (`Entry.line_of_isStorable`), and a query wants
what is read exactly if it wants the entry (`Query.wants_stored`).
-/

namespace Spreadsheet

namespace Event

/-- The fields of the object that stores an event. -/
def fields (e : Event) (stamp : String) : Json.Fields :=
  [("schema_version", Json.ofInt schemaVersion), ("ts", .text stamp),
    ("level", .text e.level.name), ("event_type", .text e.kind.name),
    ("message", .text e.message), ("context", .object e.context),
    ("error_code", Json.ofText? e.code)]

/-- An event can be stored: its integers do not have too many digits, and no object that it is
about has a key twice. -/
structure IsStorable (e : Event) : Prop where
  hasDistinctKeys : (Json.object e.context).HasDistinctKeys
  hasText : ∀ x, Json.Holds x (.object e.context) → x.HasText

/-- All numbers that an event is about are finite. -/
def HasFiniteNumbers (e : Event) : Prop :=
  ∀ x, Json.Holds x (.object e.context) → x.isFinite = true

section Lemmas

variable {e : Event} {stamp : String}

theorem record_eq
    (e : Event) (stamp : String) :
    e.record stamp = .object (e.fields stamp) := rfl

theorem nodup_keys_fields
    (e : Event) (stamp : String) :
    ((e.fields stamp).map Prod.fst).Nodup := by
  change ["schema_version", "ts", "level", "event_type", "message", "context",
    "error_code"].Nodup
  decide

/-- Beside the numbers in the context there is the version. -/
theorem holds_record_iff
    {x : Number} :
    Json.Holds x (e.record stamp)
      ↔ x = .int schemaVersion ∨ Json.Holds x (.object e.context) := by
  have hcode : ¬ Json.Holds x (Json.ofText? e.code) := by
    cases e.code with
    | none => exact Json.not_holds_null
    | some code => exact Json.not_holds_text
  simp only [record_eq, fields, Json.ofInt, Json.holds_cons_field_iff, Json.holds_number_iff,
    Json.not_holds_text, hcode, Json.not_holds_nil.2, or_false, false_or]

theorem hasDistinctKeys_record
    (h : (Json.object e.context).HasDistinctKeys) :
    (e.record stamp).HasDistinctKeys := by
  rw [record_eq, Json.HasDistinctKeys]
  have hcode : (Json.ofText? e.code).HasDistinctKeys := by
    cases e.code <;> exact trivial
  refine ⟨nodup_keys_fields e stamp, ?_⟩
  exact ⟨trivial, trivial, trivial, trivial, trivial, h, hcode, trivial⟩

/-- What is stored for an event of finite numbers is its object, the fields in order. -/
theorem stored_record_of_hasFiniteNumbers
    (h : e.HasFiniteNumbers) :
    (e.record stamp).stored = (e.record stamp).sortKeys := by
  have hfinite : ∀ x, Json.Holds x (e.record stamp) → x.isFinite = true := by
    intro x hx
    rcases holds_record_iff.1 hx with rfl | hx
    · rfl
    · exact h x hx
  rw [Json.stored, Json.withoutNonFinite_of_isFinite hfinite]

theorem IsStorable.admits
    (h : e.IsStorable) :
    ∀ x, Json.Holds x (e.record stamp).stored → Json.Layout.line.Admits x := by
  intro x hx
  refine ⟨?_, nofun⟩
  rcases holds_record_iff.1 (Json.holds_of_holds_stored hx) with rfl | hx
  · exact isWritable_of_lt_pow 1 (by decide) (by decide)
  · exact h.hasText x hx

end Lemmas

end Event

namespace Json

section Lemmas

/-- An object that is written begins with a bracket. -/
theorem mem_toList_of_print_object
    {layout : Layout} {fields : Fields} {text : String}
    (h : print layout (.object fields) = .ok text) :
    '\x7b' ∈ text.toList := by
  rw [print, write] at h
  obtain ⟨parts, -, h⟩ := bind_eq_ok_iff.1 h
  obtain rfl := Except.ok.inj h
  unfold bracket
  split
  · simp
  · split <;> simp

end Lemmas

end Json

namespace EventLog

/-- An event to be logged, and the text of the time at which it happened. -/
structure Entry where
  event : Event
  stamp : String

namespace Entry

/-- What is stored for an entry. -/
def stored (e : Entry) : Json := (e.event.record e.stamp).stored

/-- The line of an entry; nothing if it cannot be written. -/
def line (e : Entry) : List Char :=
  match e.event.line e.stamp with
  | .ok line => line.toList
  | .error _ => []

section Lemmas

variable {e : Entry}

/-- The line of an entry is that of what is stored. -/
theorem exists_print_stored
    (h : e.event.IsStorable) :
    ∃ line, e.event.line e.stamp = .ok line ∧ e.stored.print .line = .ok line := by
  obtain ⟨line, hprint⟩ := (Json.exists_write_iff .line 0 e.stored).2 h.admits
  exact ⟨line, hprint, hprint⟩

/-- The line of an entry is graphic, and it reads back as what is stored. -/
theorem line_of_isStorable
    (h : e.event.IsStorable) :
    (∀ c ∈ e.line, Text.IsGraphic c) ∧ record? e.line = .ok (some e.stored) := by
  obtain ⟨line, hline, hprint⟩ := exists_print_stored h
  have heq : e.line = line.toList := by
    rw [Entry.line, hline]
  rw [heq]
  refine ⟨Json.isGraphic_write rfl rfl hprint, ?_⟩
  have hblank : line.toList.all Text.isBlank = false := by
    rw [List.all_eq_false]
    exact ⟨'\x7b', Json.mem_toList_of_print_object hprint, by decide⟩
  have hkeys : e.stored.HasDistinctKeys :=
    Json.hasDistinctKeys_stored (Event.hasDistinctKeys_record h.hasDistinctKeys)
  have hparse : Json.parse line = .ok e.stored := by
    have := Json.parse_of_print hkeys hprint "" (by simp [Json.IsGaps])
    rwa [String.append_empty] at this
  rw [record?, hblank, String.ofList_toList, hparse]
  rfl

end Lemmas

end Entry

namespace Query

/-- An entry is of the level and the kind that are wanted. -/
def admits (q : Query) (e : Entry) : Bool :=
  (q.level.isEmpty || e.event.level.name == q.level)
    && (q.kind.isEmpty || e.event.kind.name == q.kind)

section Lemmas

variable {q : Query}

/-- A text in a field of an event is found in the stored object. -/
theorem matchesField_stored
    {e : Entry} {found : String}
    (wanted key : String)
    (h : Json.getField? (e.event.fields e.stamp) key = some (.text found)) :
    matchesField wanted key e.stored = .ok (wanted.isEmpty || found == wanted) := by
  have hfield : Json.getField? (Json.storedFields (e.event.fields e.stamp)) key
      = some (.text found) := by
    rw [Json.getField?_storedFields (Event.nodup_keys_fields _ _), h]
    rfl
  rw [Entry.stored, Event.record_eq, Json.stored_object]
  cases hwanted : wanted.isEmpty with
  | true => simp [matchesField, hwanted]
  | false => simp [matchesField, hwanted, hfield]

/-- A query wants what is stored exactly if it wants the entry. -/
theorem wants_stored
    (q : Query) (e : Entry) :
    q.wants e.stored = .ok (q.admits e) := by
  have hlevel := matchesField_stored (e := e) q.level "level" rfl
  have hkind := matchesField_stored (e := e) q.kind "event_type" rfl
  rw [wants, bind_of_eq_ok hlevel, admits]
  cases (q.level.isEmpty || e.event.level.name == q.level) with
  | true => exact hkind
  | false => rfl

/-- The first entries that are wanted, as many as the limit has room for. -/
theorem take_stored
    {limit : Int}
    (hlimit : 1 ≤ limit)
    (entries : List Entry) :
    q.take limit (entries.map Entry.stored)
      = .ok (((entries.filter q.admits).take limit.toNat).map Entry.stored) := by
  induction entries generalizing limit with
  | nil => simp [take]
  | cons e entries ih =>
      rw [List.map_cons, take, bind_of_eq_ok (wants_stored q e), List.filter_cons]
      cases q.admits e with
      | false => exact ih hlimit
      | true =>
          obtain ⟨n, rfl⟩ := Int.eq_ofNat_of_zero_le (Int.le_trans (by decide) hlimit)
          by_cases hlast : (n : Int) ≤ 1
          · have hone : n = 1 := by omega
            subst hone
            rfl
          · have hmore := @ih ((n : Int) - 1) (by omega)
            have hnext : ((n : Int) - 1).toNat + 1 = (n : Int).toNat := by omega
            simp only [if_true, if_neg hlast]
            rw [bind_of_eq_ok hmore, ← hnext, List.take_succ_cons, List.map_cons]
            rfl

end Lemmas

end Query

end EventLog

end Spreadsheet
