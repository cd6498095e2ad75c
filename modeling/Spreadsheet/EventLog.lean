import Spreadsheet.Event
import Spreadsheet.Json.Reader
import Spreadsheet.Text.Blank
import Spreadsheet.Text.Lines

/-!
# The event log

The stored events of a sheet, one a line, the latest last.  Only the end of the
log is read, up to a number of bytes; where that cuts off a part, the first
line that is left may be cut itself and is dropped.  Lines that hold nothing or
no value at all are skipped.

A query asks for the latest events of a level or a kind.  It looks into the
fields of what it finds only where it has something to compare.

Results: a log within the number of bytes is read whole (`tail_of_le`), and a
query finds no more than its limit, or one (`length_select_le`).
-/

namespace Spreadsheet
namespace EventLog

/-- How much of the end of a log is read unless something else is asked. -/
def defaultTail : Nat := 2 * 1024 * 1024

/-- The most events that a query finds. -/
def greatestLimit : Int := 2000

/-- How many events a query finds unless something else is asked. -/
def defaultLimit : Int := 200

/-- The number of bytes of a text. -/
def byteSize : List Char → Nat
  | [] => 0
  | c :: s => c.utf8Size + byteSize s

/-- The text from a byte on; a character cut there is dropped. -/
def dropBytes : Nat → List Char → List Char
  | 0, s => s
  | _, [] => []
  | n + 1, c :: s => dropBytes (n + 1 - c.utf8Size) s

/-- The end of a log, up to a number of bytes, without the line that may be
cut. -/
def tail (bytes : Int) (log : List Char) : List Char :=
  let start := ((byteSize log : Int) - bytes).toNat
  if start = 0 then log else ((dropBytes start log).dropWhile (· != '\n')).drop 1

/-- The value on a line, if there is one. -/
def record? (line : List Char) : Except Fault (Option Json) :=
  if line.all Text.isBlank then
    .ok none
  else
    match Json.parse (String.ofList line) with
    | .ok value => .ok (some value)
    | .error .malformed => .ok none
    | .error .tooManyDigits => .error .tooManyDigits

/-- The values on the lines of a log. -/
def records (log : List Char) : Except Fault (List Json) := do
  return (← (Text.lines log).mapM record?).filterMap id

/-- What is asked of a log. -/
structure Query where
  /-- The level wanted; the empty text wants any. -/
  level : String
  /-- The kind wanted; the empty text wants any. -/
  kind : String
  limit : Int
deriving DecidableEq, Repr

namespace Query

/-- The query for the latest events. -/
def latest : Query := ⟨"", "", defaultLimit⟩

/-- A value has the wanted text in a field; anything will do if none is
wanted. -/
def matchesField (wanted key : String) (value : Json) : Except Fault Bool :=
  if wanted.isEmpty then
    .ok true
  else
    match value with
    | .object fields =>
        match Json.getField? fields key with
        | some (.text s) => .ok (s == wanted)
        | _ => .ok false
    | _ => .error .notARecord

/-- A value is wanted. -/
def wants (q : Query) (value : Json) : Except Fault Bool := do
  if ← matchesField q.level "level" value then
    matchesField q.kind "event_type" value
  else
    return false

/-- The first wanted values, at most `limit` of them but always the first. -/
def take (q : Query) (limit : Int) : List Json → Except Fault (List Json)
  | [] => .ok []
  | value :: rest => do
      if ← q.wants value then
        if limit ≤ 1 then
          return [value]
        else
          return value :: (← take q (limit - 1) rest)
      else
        take q limit rest

end Query

/-- What a query finds among stored values, the latest first. -/
def select (q : Query) (values : List Json) : Except Fault (List Json) :=
  q.take (min q.limit greatestLimit) values.reverse

/-- What a query finds at the end of a log. -/
def read (log : String) (bytes : Int) (q : Query) : Except Fault (List Json) := do
  select q (← records (tail bytes log.toList))

section Lemmas

/-- A log that is not too long is read whole. -/
theorem tail_of_le
    {bytes : Int} {log : List Char}
    (h : (byteSize log : Int) ≤ bytes) :
    tail bytes log = log := by
  unfold tail
  rw [if_pos]
  omega

theorem length_take_le
    {q : Query} {limit : Int} {values found : List Json}
    (h : q.take limit values = .ok found) :
    (found.length : Int) ≤ max 1 limit := by
  induction values generalizing limit found with
  | nil =>
      simp only [Query.take, Except.ok.injEq] at h
      subst h
      show (0 : Int) ≤ max 1 limit
      omega
  | cons value rest ih =>
      simp only [Query.take] at h
      cases hw : q.wants value with
      | error fault => simp [hw, bind, Except.bind] at h
      | ok wanted =>
          cases wanted with
          | false =>
              simp only [hw, bind, Except.bind, Bool.false_eq_true, if_false] at h
              exact ih h
          | true =>
              simp only [hw, bind, Except.bind, if_true] at h
              split at h
              · simp only [pure, Except.pure, Except.ok.injEq] at h
                subst h
                show (1 : Int) ≤ max 1 limit
                omega
              · cases hr : q.take (limit - 1) rest with
                | error fault => simp [hr] at h
                | ok more =>
                    simp only [hr, pure, Except.pure, Except.ok.injEq] at h
                    subst h
                    have := ih hr
                    simp only [List.length_cons]
                    omega

/-- A query finds no more than its limit, or one. -/
theorem length_select_le
    {q : Query} {values found : List Json}
    (h : select q values = .ok found) :
    (found.length : Int) ≤ max 1 (min q.limit greatestLimit) :=
  length_take_le h

end Lemmas

end EventLog
end Spreadsheet
