import Spreadsheet.Json.Worded
import Spreadsheet.Yaml.Node
import Spreadsheet.Yaml.Scalar

/-!
# Reading settings files

The node of a settings file, and the value of a node.  A key of a mapping may be
any scalar; of two keys that are equal in value the first one stands, with the
value of the last.  A mapping may take over the entries of others, which its own
entries go before.

Results: an entry that was set is there (`mem_setEntry`), and an empty file holds
nothing (`read_empty`), which has the value null (`value_missing`).
-/

namespace Spreadsheet
namespace Yaml

/-- An entry of a mapping. -/
abbrev Entry := Option Scalar × Json

/-- The entries with one set: in its place if its key is there, else at the end. -/
def setEntry (entries : List Entry) (entry : Entry) : List Entry :=
  match entries with
  | [] => [entry]
  | first :: rest =>
      if equalValues first.1 entry.1 then (first.1, entry.2) :: rest
      else first :: setEntry rest entry

/-- The object that entries make; its keys are put into words. -/
def objectOf (entries : List Entry) : Except Fault Json := do
  let fields ← (entries.foldl setEntry []).mapM fun (key, value) => do
    return (← (Json.ofValue key).worded, value)
  return Json.ofFields fields

/-- The entries of an object. -/
def entriesOf : Json → Except Fault (List Entry)
  | .object fields => .ok (fields.map fun (key, value) => (some (.text key), value))
  | _ => .error (.unreadableSettings .value)

/-- The entries that are taken over from a mapping, or from several of which the
earlier ones go before. -/
def takenOver : Json → Except Fault (List Entry)
  | .array items => do return (← items.reverse.mapM entriesOf).flatten
  | value => entriesOf value

/-- The key under which entries are taken over. -/
def isTakingOver : Node → Bool
  | .text true ['<', '<'] => true
  | _ => false

/-- The key that a node makes. -/
def keyOf : Node → Except Fault (Option Scalar)
  | .text true ['='] => .ok (some (.text "="))
  | .text true s => resolve s
  | .text false s => .ok (some (.text (String.ofList s)))
  | _ => .error (.unreadableSettings .value)

mutual

/-- The value of a node. -/
def Node.value : Node → Except Fault Json
  | .text true s => (resolve s).map Json.ofValue
  | .text false s => .ok (.text (String.ofList s))
  | .sequence items => (Node.values items).map Json.array
  | .mapping entries => do
      let (taken, own) ← Node.entryValues entries
      objectOf (taken ++ own)
  | .unknown => .error (.unreadableSettings .value)

/-- The values of nodes. -/
def Node.values : List Node → Except Fault (List Json)
  | [] => .ok []
  | node :: rest => do
      let value ← node.value
      return value :: (← Node.values rest)

/-- The entries that a mapping takes over, and its own. -/
def Node.entryValues : List (Node × Node) → Except Fault (List Entry × List Entry)
  | [] => .ok ([], [])
  | (key, node) :: rest => do
      let value ← node.value
      if isTakingOver key then
        let entries ← takenOver value
        let (taken, own) ← Node.entryValues rest
        return (entries ++ taken, own)
      else
        let key ← keyOf key
        let (taken, own) ← Node.entryValues rest
        return (taken, (key, value) :: own)

end

/-- The node of a settings file, the missing one if there is nothing in it. -/
def read (s : String) : Except Fault Node := do
  return (← Node.ofTokens (tokens (← glyphs s))).getD .missing

section Lemmas

/-- The value of an entry that was set is there. -/
theorem mem_setEntry
    (entries : List Entry) (entry : Entry) :
    ∃ key, (key, entry.2) ∈ setEntry entries entry := by
  induction entries with
  | nil => exact ⟨entry.1, by simp [setEntry]⟩
  | cons first rest ih =>
      rw [setEntry]
      split
      · exact ⟨first.1, by simp⟩
      · obtain ⟨key, hkey⟩ := ih
        exact ⟨key, List.mem_cons_of_mem _ hkey⟩

/-- An empty file holds nothing. -/
theorem read_empty :
    read "" = .ok .missing := rfl

theorem value_missing :
    Node.missing.value = .ok .null := rfl

end Lemmas

end Yaml
end Spreadsheet
