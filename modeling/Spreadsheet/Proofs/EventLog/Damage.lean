import Spreadsheet.Proofs.EventLog.Bytes
import Spreadsheet.Proofs.Json.LongInteger
import Spreadsheet.Proofs.Text.Trimming

/-!
# Reading a damaged log

A log may hold anything.  A line that writes no value is skipped, a blank one among them; a
line with an integer of too many digits ends the reading, and so does a value that is no object
where a level or a kind is looked for, if the search gets to it.  Whatever else the lines hold,
a query finds the latest of the values that it wants, as many as its limit has room for but at
least one.

Results: the records of a log are the values on its lines (`records_eq`), a query takes the
first values that it wants (`Query.take_eq`), and so it is settled for every log what a query
finds in it, and whether it finds anything at all (`readBytes_outcome`).
-/

namespace Spreadsheet

namespace Json

/-- The value is an object. -/
def isObject : Json → Bool
  | .object _ => true
  | _ => false

/-- The value is an object with a text in a field. -/
def hasTextAt (key wanted : String) : Json → Bool
  | .object fields =>
      match getField? fields key with
      | some (.text s) => s == wanted
      | _ => false
  | _ => false

section Lemmas

/-- A blank begins no token. -/
theorem scanToken_of_isBlank
    {c : Char}
    (hblank : Text.isBlank c = true)
    (s : List Char) :
    scanToken (c :: s) = (.stray, []) := by
  have hdigit : c.isDigit = false := by
    by_contra hc
    rw [Bool.not_eq_false] at hc
    cases (Text.not_isBlank_of_isDigit hc).symm.trans hblank
  have hwhole : scanWhole? (c :: s) = none := by
    rw [scanWhole?.eq_def]
    split
    · next heq =>
        obtain ⟨rfl, -⟩ := List.cons.inj heq
        cases hdigit
    · next heq =>
        obtain ⟨rfl, -⟩ := List.cons.inj heq
        rw [if_neg (by simp [hdigit])]
    · rfl
  unfold scanToken
  split
  -- A token that is no number begins with a visible character.
  all_goals try
    obtain ⟨rfl, -⟩ := List.cons.inj ‹_ :: _ = _›
    exact absurd hblank (by decide)
  rw [scanNumber?, hwhole]
  rfl

/-- Blanks are no token, or begin with a stray one. -/
theorem tokens_of_isBlank
    {s : List Char}
    (h : ∀ c ∈ s, Text.isBlank c = true) :
    tokens s = [] ∨ tokens s = [.stray] := by
  induction s with
  | nil => exact .inl (by rw [tokens])
  | cons c s ih =>
      by_cases hgap : isGap c = true
      · rw [tokens, if_pos hgap]
        exact ih fun d hd => h d (List.mem_cons_of_mem _ hd)
      · refine .inr ?_
        have hscan := scanToken_of_isBlank (h c List.mem_cons_self) s
        rw [tokens, if_neg hgap]
        simp only [hscan]
        rw [dif_pos (by simp), tokens]

end Lemmas

end Json

namespace EventLog

/-- The value that a line writes, if it writes one. -/
def valueOn? (line : List Char) : Option Json :=
  (Json.parse (String.ofList line)).toOption

/-- Reading a line gets to an integer of too many digits. -/
def IsOverlong (line : List Char) : Prop := Json.MeetsLongInteger (Json.tokens line)

section Lemmas

variable {line log : List Char}

theorem valueOn?_of_isBlank
    (h : line.all Text.isBlank = true) :
    valueOn? line = none := by
  have htokens := Json.tokens_of_isBlank (List.all_eq_true.1 h)
  rw [valueOn?, Json.parse, String.toList_ofList]
  rcases htokens with htokens | htokens
  · simp [htokens, Json.readFrom, Except.toOption]
  · simp [htokens, Json.readFrom, Json.Token.value?, Except.toOption]

theorem isOverlong_iff :
    IsOverlong line ↔ Json.parse (String.ofList line) = .error .tooManyDigits := by
  rw [Json.parse_eq_tooManyDigits_iff, String.toList_ofList, IsOverlong]

/-- A line that can be read has the value that it writes, if it writes one. -/
theorem record?_eq
    (h : ¬ IsOverlong line) :
    record? line = .ok (valueOn? line) := by
  unfold record?
  split
  · next hblank => rw [valueOn?_of_isBlank hblank]
  · rw [valueOn?]
    split
    · next value hvalue => rw [hvalue]; rfl
    · next hfault => rw [hfault]; rfl
    · next hfault => exact absurd (isOverlong_iff.2 hfault) h

theorem not_isBlank_of_isOverlong
    (h : IsOverlong line) :
    ¬ line.all Text.isBlank = true := by
  intro hblank
  obtain ⟨before, after, heq, -⟩ := h
  rcases Json.tokens_of_isBlank (List.all_eq_true.1 hblank) with htokens | htokens <;>
    rw [heq] at htokens
  · simp at htokens
  · have := congrArg (Json.Token.tooLong ∈ ·) htokens
    simp at this

theorem record?_of_isOverlong
    (h : IsOverlong line) :
    record? line = .error .tooManyDigits := by
  rw [record?, if_neg (not_isBlank_of_isOverlong h), isOverlong_iff.1 h]

theorem exists_record?_iff :
    (∃ value, record? line = .ok value) ↔ ¬ IsOverlong line := by
  constructor
  · rintro ⟨value, hvalue⟩ h
    cases (record?_of_isOverlong h).symm.trans hvalue
  · exact fun h => ⟨_, record?_eq h⟩

/-- The records of a log can be read if no line is overlong. -/
theorem exists_records_iff :
    (∃ values, records log = .ok values) ↔ ∀ line ∈ Text.lines log, ¬ IsOverlong line := by
  rw [records, exists_bind_pure_eq_ok_iff, exists_mapM_eq_ok_iff]
  simp only [exists_record?_iff]

/-- The records of a log are the values on its lines. -/
theorem records_eq
    (h : ∀ line ∈ Text.lines log, ¬ IsOverlong line) :
    records log = .ok ((Text.lines log).filterMap valueOn?) := by
  rw [records, bind_of_eq_ok (mapM_eq_pure fun line hline => record?_eq (h line hline))]
  exact congrArg Except.ok List.filterMap_map

end Lemmas

namespace Query

/-- A level or a kind is asked for. -/
def asks (q : Query) : Bool := !(q.level.isEmpty && q.kind.isEmpty)

/-- The value has what is asked for. -/
def finds (q : Query) (value : Json) : Bool :=
  (q.level.isEmpty || value.hasTextAt "level" q.level)
    && (q.kind.isEmpty || value.hasTextAt "event_type" q.kind)

/-- A search for some of the first values that have what is asked for gets to a value that is
no object. -/
def MeetsOther (q : Query) (room : Int) (values : List Json) : Prop :=
  q.asks = true ∧ ∃ before value after, values = before ++ value :: after
    ∧ value.isObject = false ∧ ((before.filter q.finds).length : Int) < room

/-- The most values that are found: as many as the limit says, but always the first. -/
def room (q : Query) : Int := max 1 (min q.limit greatestLimit)

section Lemmas

variable {q : Query} {value : Json} {values : List Json}

theorem matchesField_object
    (wanted key : String) (fields : Json.Fields) :
    matchesField wanted key (.object fields)
      = .ok (wanted.isEmpty || Json.hasTextAt key wanted (.object fields)) := by
  rw [matchesField, Json.hasTextAt]
  cases wanted.isEmpty with
  | true => rfl
  | false =>
      rcases Json.getField? fields key with _ | value
      · rfl
      · cases value <;> rfl

theorem matchesField_of_isEmpty
    {wanted : String}
    (h : wanted.isEmpty = true)
    (key : String) (value : Json) :
    matchesField wanted key value = .ok true :=
  if_pos h

theorem matchesField_of_other
    {wanted : String}
    (h : wanted.isEmpty = false)
    (key : String)
    (hother : value.isObject = false) :
    matchesField wanted key value = .error .notARecord := by
  cases value with
  | object fields => cases hother
  | _ => exact if_neg (by simp [h])

theorem not_asks_iff :
    q.asks = false ↔ q.level.isEmpty = true ∧ q.kind.isEmpty = true := by
  rw [asks, Bool.not_eq_false', Bool.and_eq_true]

/-- Nothing is looked up in a value that is no object where nothing is asked for. -/
theorem wants_eq
    (h : q.asks = true → value.isObject = true) :
    q.wants value = .ok (q.finds value) := by
  cases hasks : q.asks with
  | false =>
      obtain ⟨hlevel, hkind⟩ := not_asks_iff.1 hasks
      rw [wants, bind_of_eq_ok (matchesField_of_isEmpty hlevel _ _), finds, hlevel, hkind]
      exact matchesField_of_isEmpty hkind _ _
  | true =>
      cases value with
      | object fields =>
          rw [wants, bind_of_eq_ok (matchesField_object _ _ _), finds]
          cases q.level.isEmpty || Json.hasTextAt "level" q.level (.object fields) with
          | true => exact matchesField_object _ _ _
          | false => rfl
      | _ => cases h hasks

theorem wants_of_other
    (hasks : q.asks = true)
    (hother : value.isObject = false) :
    q.wants value = .error .notARecord := by
  cases hlevel : q.level.isEmpty with
  | false =>
      rw [wants, matchesField_of_other hlevel _ hother]
      rfl
  | true =>
      have hkind : q.kind.isEmpty = false := by simpa [asks, hlevel] using hasks
      rw [wants, bind_of_eq_ok (matchesField_of_isEmpty hlevel _ _)]
      exact matchesField_of_other hkind _ hother

/-- What has what is asked for is an object, if anything is asked for. -/
theorem isObject_of_finds
    (hasks : q.asks = true)
    (hfinds : q.finds value = true) :
    value.isObject = true := by
  cases value with
  | object fields => rfl
  | _ =>
      rw [finds, Bool.and_eq_true] at hfinds
      simp only [Json.hasTextAt, Bool.or_false] at hfinds
      cases hasks.symm.trans (not_asks_iff.2 hfinds)

/-! A search takes one value after the other. -/

theorem not_meetsOther_nil
    (room : Int) :
    ¬ q.MeetsOther room [] := by
  rintro ⟨-, before, other, after, heq, -⟩
  cases before <;> cases heq

/-- A search that goes on past a value meets what the rest of it meets. -/
theorem meetsOther_cons_iff
    {room : Int}
    (h : q.asks = true → value.isObject = true) :
    q.MeetsOther room (value :: values)
      ↔ q.MeetsOther (if q.finds value then room - 1 else room) values := by
  refine and_congr_right fun hasks => ⟨?_, ?_⟩
  · rintro ⟨before, other, after, heq, hother, hless⟩
    cases before with
    | nil =>
        obtain ⟨rfl, -⟩ := List.cons.inj heq
        cases hother.symm.trans (h hasks)
    | cons first before =>
        obtain ⟨rfl, rfl⟩ := List.cons.inj heq
        refine ⟨before, other, after, rfl, hother, ?_⟩
        rw [List.filter_cons] at hless
        split at hless
        · next hfinds =>
            rw [if_pos hfinds]
            rw [List.length_cons] at hless
            omega
        · next hfinds =>
            rw [if_neg hfinds]
            exact hless
  · rintro ⟨before, other, after, rfl, hother, hless⟩
    refine ⟨value :: before, other, after, rfl, hother, ?_⟩
    rw [List.filter_cons]
    split
    · next hfinds =>
        rw [if_pos hfinds] at hless
        rw [List.length_cons]
        omega
    · next hfinds =>
        rw [if_neg hfinds] at hless
        exact hless

/-- A value that is no object ends the search at once if something is asked for. -/
theorem meetsOther_of_other
    {room : Int}
    (hroom : 0 < room)
    (hasks : q.asks = true)
    (hother : value.isObject = false) :
    q.MeetsOther room (value :: values) :=
  ⟨hasks, [], value, values, rfl, hother, hroom⟩

/-- What a query takes where the search can go on past the first value. -/
theorem take_cons
    {limit : Int}
    (h : q.asks = true → value.isObject = true) :
    q.take limit (value :: values) =
      if q.finds value then
        if limit ≤ 1 then .ok [value] else (q.take (limit - 1) values).map (value :: ·)
      else q.take limit values := by
  rw [take, bind_of_eq_ok (wants_eq h)]
  split
  · split
    · rfl
    · cases q.take (limit - 1) values <;> rfl
  · rfl

/-- The first values that have what is asked for, as many as there is room for. -/
theorem take_eq
    {limit : Int}
    (h : ¬ q.MeetsOther (max 1 limit) values) :
    q.take limit values = .ok ((values.filter q.finds).take (max 1 limit).toNat) := by
  induction values generalizing limit with
  | nil => rw [List.filter_nil, List.take_nil, take]
  | cons value values ih =>
      have hvalue : q.asks = true → value.isObject = true := by
        intro hasks
        by_contra hother
        exact h (meetsOther_of_other (by omega) hasks (by simpa using hother))
      rw [meetsOther_cons_iff hvalue] at h
      rw [take_cons hvalue, List.filter_cons]
      split
      · next hfinds =>
          rw [if_pos hfinds] at h
          split
          · next hlast =>
              rw [max_eq_left hlast]
              rfl
          · next hmore =>
              have hroom : max 1 limit - 1 = max 1 (limit - 1) := by omega
              have hcount : (max 1 limit).toNat = (max 1 (limit - 1)).toNat + 1 := by omega
              rw [hroom] at h
              rw [ih h, hcount, List.take_succ_cons]
              rfl
      · next hskip =>
          rw [if_neg hskip] at h
          exact ih h

theorem take_of_meetsOther
    {limit : Int}
    (h : q.MeetsOther (max 1 limit) values) :
    q.take limit values = .error .notARecord := by
  induction values generalizing limit with
  | nil => exact absurd h (not_meetsOther_nil _)
  | cons value values ih =>
      by_cases hvalue : q.asks = true → value.isObject = true
      · rw [meetsOther_cons_iff hvalue] at h
        rw [take_cons hvalue]
        split
        · next hfinds =>
            rw [if_pos hfinds] at h
            -- With room for one value only, the search has ended.
            have hmore : ¬ limit ≤ 1 := by
              intro hlast
              obtain ⟨-, before, other, after, -, -, hless⟩ := h
              omega
            have hroom : max 1 limit - 1 = max 1 (limit - 1) := by omega
            rw [hroom] at h
            rw [if_neg hmore, ih h]
            rfl
        · next hskip =>
            rw [if_neg hskip] at h
            exact ih h
      · obtain ⟨hasks, hother⟩ := Classical.not_imp.1 hvalue
        rw [take, wants_of_other hasks (by simpa using hother)]
        rfl

end Lemmas

end Query

section Outcome

/-- The lines at the end of a log of bytes. -/
def linesOfBytes (bytes : Int) (log : List UInt8) : List (List Char) :=
  Text.lines (tailOfBytes bytes log)

/-- The values on the lines at the end of a log of bytes, the latest first. -/
def latestValues (bytes : Int) (log : List UInt8) : List Json :=
  ((linesOfBytes bytes log).filterMap valueOn?).reverse

/-- A log in which a byte that is no text, a number, a torn line and a blank one stand before
an object. -/
def damagedLog : List UInt8 :=
  0xff :: Text.lineFeed :: Text.encoded "5\n\x7b\"level\":\n \n\x7b\"level\": \"info\"\x7d\n".toList

variable {log : List UInt8} {bytes : Int} {q : Query}

/-- A query of a log without overlong lines searches the values on them. -/
theorem readBytes_eq_take
    (h : ∀ line ∈ linesOfBytes bytes log, ¬ IsOverlong line) :
    readBytes log bytes q = q.take (min q.limit greatestLimit) (latestValues bytes log) := by
  rw [readBytes, bind_of_eq_ok (records_eq h)]
  rfl

/-- A query fails exactly at an overlong line or at a value that is no object. -/
theorem exists_readBytes_iff :
    (∃ found, readBytes log bytes q = .ok found) ↔
      (∀ line ∈ linesOfBytes bytes log, ¬ IsOverlong line)
        ∧ ¬ q.MeetsOther q.room (latestValues bytes log) := by
  constructor
  · rintro ⟨found, hfound⟩
    obtain ⟨values, hvalues, -⟩ := bind_eq_ok_iff.1 hfound
    have hlines := exists_records_iff.1 ⟨values, hvalues⟩
    refine ⟨hlines, fun hother => ?_⟩
    rw [readBytes_eq_take hlines, Query.take_of_meetsOther hother] at hfound
    cases hfound
  · rintro ⟨hlines, hother⟩
    exact ⟨_, (readBytes_eq_take hlines).trans (Query.take_eq hother)⟩

theorem eq_of_readBytes
    {found : List Json}
    (h : readBytes log bytes q = .ok found) :
    found = ((latestValues bytes log).filter q.finds).take q.room.toNat := by
  obtain ⟨hlines, hother⟩ := exists_readBytes_iff.1 ⟨found, h⟩
  exact Except.ok.inj (h.symm.trans ((readBytes_eq_take hlines).trans (Query.take_eq hother)))

theorem isObject_of_readBytes
    {found : List Json}
    (h : readBytes log bytes q = .ok found)
    (hobjects : q.asks = true ∨ ∀ value ∈ latestValues bytes log, value.isObject = true) :
    ∀ value ∈ found, value.isObject = true := by
  intro value hvalue
  rw [eq_of_readBytes h] at hvalue
  obtain ⟨hvalue, hfinds⟩ := List.mem_filter.1 (List.mem_of_mem_take hvalue)
  rcases hobjects with hasks | hobjects
  · exact Query.isObject_of_finds hasks hfinds
  · exact hobjects value hvalue

theorem length_le_of_readBytes
    {found : List Json}
    (h : readBytes log bytes q = .ok found)
    (hlimit : 1 ≤ q.limit) :
    (found.length : Int) ≤ max 0 (min q.limit greatestLimit) := by
  have hlength : found.length ≤ q.room.toNat := by
    rw [eq_of_readBytes h, List.length_take]
    exact Nat.min_le_left _ _
  have hgreatest : 1 ≤ greatestLimit := by decide
  rw [Query.room] at hlength
  omega

/-- In a log of any bytes blank lines write no value, and a query fails exactly at an overlong
line or at a value that is no object; else it finds the latest values that it wants, as many
as there is room for.  These are no more than the limit if that is positive, and all of them
are objects if something is asked for or if there is nothing else. -/
theorem readBytes_outcome
    (log : List UInt8) (bytes : Int) (q : Query) :
    (∀ text : String, log = Text.encoded text.toList →
        readBytes log bytes q = read text bytes q)
      ∧ (∀ line ∈ linesOfBytes bytes log, line.all Text.isBlank = true → valueOn? line = none)
      ∧ ((∃ found, readBytes log bytes q = .ok found) ↔
          (∀ line ∈ linesOfBytes bytes log, ¬ IsOverlong line)
            ∧ ¬ q.MeetsOther q.room (latestValues bytes log))
      ∧ ∀ found, readBytes log bytes q = .ok found →
          found = ((latestValues bytes log).filter q.finds).take q.room.toNat
            ∧ (1 ≤ q.limit → (found.length : Int) ≤ max 0 (min q.limit greatestLimit))
            ∧ ((q.asks = true ∨ ∀ value ∈ latestValues bytes log, value.isObject = true) →
                ∀ value ∈ found, value.isObject = true) := by
  refine ⟨?_, fun _ _ => valueOn?_of_isBlank, exists_readBytes_iff, fun found hfound => ?_⟩
  · rintro text rfl
    exact readBytes_encoded text bytes q
  · exact ⟨eq_of_readBytes hfound, length_le_of_readBytes hfound, isObject_of_readBytes hfound⟩

/-- A query for one event of the level of the last line finds it, and gets no further. -/
theorem readBytes_outcome_damagedLog :
    ∃ found, readBytes damagedLog defaultTail ⟨"info", "", 1⟩ = .ok found
      ∧ found.map (Json.hasTextAt "level" "info") = [true]
      ∧ (found.length : Int) ≤ max 0 (min 1 greatestLimit)
      ∧ ∀ value ∈ found, value.isObject = true := by
  obtain ⟨-, -, -, hall⟩ := readBytes_outcome damagedLog defaultTail ⟨"info", "", 1⟩
  have hlevels : (readBytes damagedLog defaultTail ⟨"info", "", 1⟩).toOption.map
      (List.map (Json.hasTextAt "level" "info")) = some [true] := by decide +kernel
  cases hfound : readBytes damagedLog defaultTail ⟨"info", "", 1⟩ with
  | error fault =>
      rw [hfound] at hlevels
      cases hlevels
  | ok found =>
      rw [hfound] at hlevels
      obtain ⟨-, hlength, hobjects⟩ := hall _ hfound
      exact ⟨found, rfl, Option.some.inj hlevels, hlength (by decide), hobjects (.inl rfl)⟩

/-- Not every query finds objects, and no more than its limit: a number on a line ends one for
a level. -/
theorem not_readBytes_of_number :
    ¬ ∀ (log : List UInt8) (bytes : Int) (q : Query),
      ∃ found, readBytes log bytes q = .ok found
        ∧ (found.length : Int) ≤ max 0 (min q.limit greatestLimit)
        ∧ ∀ value ∈ found, value.isObject = true := by
  intro hclaim
  obtain ⟨found, hfound, -⟩ :=
    hclaim (Text.encoded "5\n".toList) defaultTail ⟨"info", "", defaultLimit⟩
  have hnone : (readBytes (Text.encoded "5\n".toList) defaultTail
      ⟨"info", "", defaultLimit⟩).toOption.isNone = true := by decide +kernel
  rw [hfound] at hnone
  cases hnone

end Outcome

end EventLog
end Spreadsheet
