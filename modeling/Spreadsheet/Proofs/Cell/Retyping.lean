import Spreadsheet.Proofs.Formula.Arithmetic
import Spreadsheet.Proofs.Number.Order
import Spreadsheet.Proofs.Number.Plain
import Spreadsheet.Proofs.Text.Trimming

/-!
# Cells typed in again

The text that a cell offers for editing may be typed in as it is.  Dates and formulas are
kept without the blanks around them, which changes nothing about what they are taken for;
other words are kept with their blanks.  A number is offered without a power of ten, and an
amount with the symbol that its format names, so that each is taken again for what it is.

What is typed is not put where an equal cell stands.  Such a cell offers a text of its own,
and a truth value may stand where a number was typed, or the other way round.

Results: what is typed stores a cell whose text stores an equal one (`retypes_of_ofInput?`),
and so does an equal cell, unless a truth value stands for a number (`retypes_of_equal`).
-/

namespace Spreadsheet

open Numeral

/-- The text that the cell offers for editing stores an equal cell. -/
def Cell.Retypes (c : Cell) : Prop :=
  ∃ text, c.inputText = .ok text
    ∧ ∃ c', Cell.ofInput? text = .ok (some c') ∧ c'.equal c = true

/-- The cell holds a truth value. -/
def Cell.holdsTruth : Cell → Bool
  | .plain (.bool _) _ _ => true
  | _ => false

/-- What a text can be taken for. -/
inductive Entry.IsReading (raw : String) : Entry → Prop
  | nothing :
      IsReading raw .nothing
  | checkbox
      (checked : Bool) :
      IsReading raw (.checkbox checked)
  | formula :
      IsReading raw (.formula (Text.trimmed raw))
  | amount
      {symbol : Char} {x : Binary64}
      (hsymbol : symbol ∈ Number.currencySymbols)
      (hfinite : x.isFinite = true)
      (hsign : x.isNegative = false) :
      IsReading raw (.currency symbol x)
  | number
      {x : Number}
      (hfinite : x.isFinite = true)
      (htext : x.HasText) :
      IsReading raw (.number x)
  | date :
      IsReading raw (.date (Text.trimmed raw))
  | text :
      IsReading raw (.text raw)

section Lemmas

theorem Number.mem_currencySymbols_iff
    {c : Char} :
    c ∈ currencySymbols ↔ c = '$' ∨ c = '€' ∨ c = '£' := by
  simp [currencySymbols]

/-- A digit is neither a currency symbol nor a comma. -/
theorem Number.isKept_of_isDigit
    {c : Char}
    (h : c.isDigit = true) :
    (!(currencySymbols.contains c || c == ',')) = true := by
  have hother : ∀ d : Char, d.isDigit = false → c ≠ d := by
    rintro d hd rfl
    rw [h] at hd
    cases hd
  simp [mem_currencySymbols_iff, hother '$' (by decide), hother '€' (by decide),
    hother '£' (by decide), hother ',' (by decide)]

theorem Binary64.isNegative_ofDecimal
    (negative : Bool) (m : Nat) (e : Int) :
    (ofDecimal negative m e).isNegative = negative := by
  unfold ofDecimal
  repeat' split
  · rfl
  · rfl
  · exact isNegative_ofQuotient _ _ _
  · exact isNegative_ofQuotient _ _ _

/-- What equals a number that can be written can be written. -/
theorem Number.hasText_of_equal
    {x y : Number}
    (h : y.equal x = true)
    (hx : x.HasText) :
    y.HasText := by
  cases y with
  | float y => trivial
  | int j =>
      cases x with
      | int i =>
          obtain rfl := eq_of_equal_int h
          exact hx
      | float x =>
          rw [equal_comm] at h
          exact isWritable_of_toInt? (toInt?_of_equal h)

namespace Entry

variable {raw : String} {entry : Entry}

theorem isNegative_of_amount?
    {s : List Char} {x : Binary64}
    (h : amount? s = some x) :
    x.isNegative = false := by
  simp only [amount?, Option.ite_none_left_eq_some, Option.ite_none_right_eq_some,
    Option.some.injEq] at h
  obtain ⟨-, -, -, rfl⟩ := h
  exact Binary64.isNegative_ofDecimal _ _ _

theorem isReading_of_currency?
    {s : List Char}
    (h : currency? s = some entry) :
    IsReading raw entry := by
  unfold currency? at h
  split at h
  · split at h
    · next hsymbol =>
        obtain ⟨x, hx, rfl⟩ := Option.map_eq_some_iff.1 h
        exact .amount (by simpa using hsymbol) (isFinite_of_amount? hx) (isNegative_of_amount? hx)
    · cases h
  · cases h

/-- What a text is taken for, if it is taken for anything. -/
theorem isReading_of_ofText
    (h : ofText raw = .ok entry) :
    IsReading raw entry := by
  unfold ofText at h
  simp only at h
  split at h
  case h_7 =>
    split at h
    · next hcurrency =>
        obtain rfl := Except.ok.inj h
        exact isReading_of_currency? hcurrency
    · obtain ⟨number, hnumber, h⟩ := bind_eq_ok_iff.1 h
      cases number with
      | some x =>
          obtain rfl := Except.ok.inj h
          exact .number (Number.read?_isFinite hnumber) (Number.hasText_of_read? hnumber)
      | none =>
          obtain rfl := Except.ok.inj h
          unfold ofWords
          split
          · exact .date
          · exact .text
  case h_1 =>
    obtain rfl := Except.ok.inj h
    exact .nothing
  case h_6 rest htrim =>
    obtain rfl := Except.ok.inj h
    exact .formula
  all_goals
    obtain rfl := Except.ok.inj h
    exact .checkbox _

/-- The blanks around a text make a difference to words only. -/
theorem ofText_trimmed
    (h : ofText raw = .ok entry)
    (hwords : ∀ text, entry ≠ .text text) :
    ofText (Text.trimmed raw) = .ok entry := by
  have htrim : Text.trim (Text.trimmed raw).toList = Text.trim raw.toList := by
    rw [Text.trimmed, String.toList_ofList, Text.trim_trim]
  unfold ofText at h ⊢
  rw [htrim]
  simp only at h ⊢
  split at h
  case h_7 =>
    split at h
    · exact h
    · obtain ⟨number, hnumber, h⟩ := bind_eq_ok_iff.1 h
      refine bind_eq_ok_iff.2 ⟨number, hnumber, ?_⟩
      cases number with
      | some x => exact h
      | none =>
          obtain rfl := Except.ok.inj h
          have hdate : (Date.parse? (Text.trim raw.toList)).isSome = true := by
            by_contra hnone
            exact hwords raw (by rw [ofWords, if_neg hnone])
          exact congrArg Except.ok (by rw [ofWords, ofWords, if_pos hdate, if_pos hdate])
  all_goals exact h

/-- A text in front of which stands neither a bracket nor an equals sign. -/
theorem ofText_of_head
    {c : Char} {s : List Char}
    (htrim : Text.trim raw.toList = c :: s)
    (hbracket : c ≠ '[')
    (hequals : c ≠ '=') :
    ofText raw
      = match currency? (c :: s) with
        | some entry => .ok entry
        | none => do
            match ← Number.read? (c :: s) with
            | some x => return .number x
            | none => return ofWords raw (c :: s) := by
  unfold ofText
  simp only [htrim]
  split
  · next h => cases h
  · next h => exact absurd (List.cons.inj h).1 hbracket
  · next h => exact absurd (List.cons.inj h).1 hbracket
  · next h => exact absurd (List.cons.inj h).1 hbracket
  · next h => exact absurd (List.cons.inj h).1 hbracket
  · next h => exact absurd (List.cons.inj h).1 hequals
  · rfl

/-- A text in front of which stands a digit or a minus is a number or words. -/
theorem ofText_of_number
    {c : Char} {s : List Char}
    (htrim : Text.trim raw.toList = c :: s)
    (hc : c.isDigit = true ∨ c = '-') :
    ofText raw
      = (do return (← Number.read? (c :: s)).elim (ofWords raw (c :: s)) Entry.number) := by
  have hother : ∀ d : Char, d.isDigit = false → d ≠ '-' → c ≠ d := by
    rintro d hdigit hminus rfl
    rcases hc with hc | hc
    · rw [hc] at hdigit
      cases hdigit
    · exact hminus hc
  have hcurrency : currency? (c :: s) = none := by
    have hsymbol : c ∉ Number.currencySymbols := by
      simp [Number.mem_currencySymbols_iff, hother '$' (by decide) (by decide),
        hother '€' (by decide) (by decide), hother '£' (by decide) (by decide)]
    simp [currency?, hsymbol]
  rw [ofText_of_head htrim (hother '[' (by decide) (by decide))
    (hother '=' (by decide) (by decide)), hcurrency]
  refine bind_congr fun x => ?_
  cases x <;> rfl

/-- What is read as a number is typed as that number if it has no blanks around it and begins
with a digit or a minus sign. -/
theorem ofText_of_read?
    {s : List Char} {x : Number}
    (htrim : Text.trim s = s)
    (hhead : ∀ c ∈ s.head?, c.isDigit = true ∨ c = '-')
    (hread : Number.read? s = .ok (some x)) :
    ofText (String.ofList s) = .ok (.number x) := by
  cases s with
  | nil => cases hread
  | cons c s =>
      have hraw : Text.trim (String.ofList (c :: s)).toList = c :: s := by
        rw [String.toList_ofList, htrim]
      rw [ofText_of_number hraw (hhead c rfl)]
      exact bind_of_eq_ok hread _

/-- The text of a plain numeral is an amount if its magnitude is not too large. -/
theorem amount?_text
    {n : Numeral}
    (hwhole : IsDigits n.whole)
    (hfraction : ∀ digits, n.fraction = some digits → IsDigits digits)
    (hpower : n.power = none)
    (hsign : n.negative = false)
    (hfinite : n.toBinary64.isFinite = true) :
    amount? n.text = some n.toBinary64 := by
  obtain ⟨negative, whole, fraction, power⟩ := n
  obtain rfl : power = none := hpower
  obtain rfl : negative = false := hsign
  have hsome : whole.isEmpty = false := by simpa using hwhole.1
  have hdigits : ∀ c ∈ whole, (c.isDigit || c == ',') = true :=
    fun c hc => by rw [hwhole.2 c hc, Bool.true_or]
  have hcommas : Number.withoutCommas whole = whole :=
    Number.withoutCommas_of_not_mem fun hc => absurd (hwhole.2 ',' hc) (by decide)
  unfold amount?
  cases fraction with
  | none =>
      simp only [Numeral.text, Option.elim_none, List.append_nil]
      rw [List.takeWhile_eq_self_iff.2 hdigits, List.dropWhile_eq_nil_iff.2 hdigits]
      have hvalue : Binary64.ofDecimal false (Text.decimalNat whole)
            (-(([] : List Char).length : Int))
          = Numeral.toBinary64 ⟨false, whole, none, none⟩ := by
        simp [Numeral.toBinary64, Numeral.exponent]
      simp only [hcommas, List.append_nil, hsome, hvalue, hfinite]
      rfl
  | some fraction =>
      have htake : (whole ++ '.' :: fraction).takeWhile (fun c => c.isDigit || c == ',')
          = whole := by
        rw [List.takeWhile_append_of_pos hdigits, List.takeWhile_cons_of_neg (by decide),
          List.append_nil]
      have hdrop : (whole ++ '.' :: fraction).dropWhile (fun c => c.isDigit || c == ',')
          = '.' :: fraction := by
        rw [List.dropWhile_append_of_pos hdigits, List.dropWhile_cons_of_neg (by decide)]
      simp only [Numeral.text, Option.elim_some, Option.elim_none, List.append_nil, htake, hdrop]
      have hall : fraction.all Char.isDigit = true :=
        List.all_eq_true.2 (hfraction fraction rfl).2
      have hvalue : Binary64.ofDecimal false (Text.decimalNat (whole ++ fraction))
            (-(fraction.length : Int))
          = Numeral.toBinary64 ⟨false, whole, some fraction, none⟩ := by
        simp [Numeral.toBinary64, Numeral.exponent]
      have hne : (whole ++ fraction).isEmpty = false := by simp [hwhole.1]
      simp only [hcommas, hsome, hall, hvalue, hfinite, hne]
      rfl

end Entry

namespace PlainNumeral

variable {x : Number} {n : Numeral} {amount : Binary64}

/-- A number that equals an amount has a numeral without a sign, which is an amount again. -/
theorem exists_amount?
    (h : PlainNumeral x n)
    (hequal : x.equal (.float amount) = true)
    (hsign : amount.isNegative = false) :
    n.negative = false
      ∧ ∃ z, Entry.amount? n.text = some z ∧ (Number.float z).equal x = true := by
  obtain ⟨hwhole, hfraction, hpower⟩ := h.isDigits
  cases h with
  | @whole _ i hinteger hi =>
      have hamount : amount.toInt? = some i := by
        refine Number.toInt?_of_equal (Number.equal_trans ?_ hinteger)
        rwa [Number.equal_comm]
      have hpos : ¬ i < 0 := Int.not_lt.2 (Binary64.nonneg_of_toInt? hamount hsign)
      have hvalue : Numeral.toBinary64 ⟨decide (i < 0), Nat.toDigits 10 i.natAbs, none, none⟩
          = amount := by
        rw [decide_eq_false hpos, ← Binary64.ofDecimal_natAbs hamount hsign]
        simp [Numeral.toBinary64, Numeral.exponent, Text.decimalNat_toDigits]
      refine ⟨decide_eq_false hpos, amount, ?_, by rwa [Number.equal_comm]⟩
      rw [← hvalue]
      refine Entry.amount?_text hwhole hfraction hpower (decide_eq_false hpos) ?_
      rw [hvalue]
      exact Number.isFinite_of_equal (y := .int i) (Number.equal_of_toInt? hamount) rfl
  | @point x whole fraction hfinite hne hwhole hfraction' hvalue =>
      have hfinite' : amount.isFinite = true :=
        Number.isFinite_of_equal (x := .float amount) (y := .float x)
          (by rwa [Number.equal_comm]) hfinite
      have hpositive : x.isNegative = false :=
        Binary64.isNegative_of_equal hequal hfinite' hsign hne
      refine ⟨hpositive, x, ?_, Number.equal_self_of_isFinite hfinite⟩
      have hamount := Entry.amount?_text hwhole hfraction hpower hpositive (by rwa [hvalue])
      rwa [hvalue] at hamount

end PlainNumeral

namespace Cell

variable {raw : String} {c d : Cell}

/-- The text of a plain numeral has no blanks around it, whatever else is in front of it. -/
theorem trim_append_text
    {x : Number} {n : Numeral}
    (h : PlainNumeral x n)
    (front : List Char)
    (hfront : ∀ c ∈ front.head?, Text.isBlank c = false) :
    Text.trim (front ++ n.text) = front ++ n.text := by
  have hdigit : ∀ {c : Char}, c.isDigit = true → Text.isBlank c = false :=
    Text.not_isBlank_of_isDigit
  have hne : n.text ≠ [] := by
    obtain ⟨hwhole, -, -⟩ := h.isDigits
    simp [Numeral.text, hwhole.1]
  refine Text.trim_of_ends (fun c hc => ?_) (fun c hc => ?_)
  · cases front with
    | nil => exact hdigit (h.isDigit_of_mem_head? hc)
    | cons d front => exact hfront c hc
  · rw [List.getLast?_append_of_ne_nil _ hne] at hc
    exact hdigit (h.isDigit_of_mem_getLast? hc)

/-- The text of a plain numeral stores an equal number. -/
theorem exists_ofInput?_number
    {x : Number} {n : Numeral}
    (h : PlainNumeral x n) :
    ∃ y, ofInput? (String.ofList (Binary64.signText n.negative ++ n.text))
        = .ok (some (.plain (.number y) .number none))
      ∧ y.equal x = true := by
  obtain ⟨y, hread, hequal⟩ := h.exists_read?
  have htrim := trim_append_text h (Binary64.signText n.negative) fun c hc => by
    rw [Binary64.eq_of_mem_signText (List.mem_of_mem_head? hc)]
    decide
  have hhead : ∀ c ∈ (Binary64.signText n.negative ++ n.text).head?,
      c.isDigit = true ∨ c = '-' := by
    intro c hc
    cases hsign : Binary64.signText n.negative with
    | nil =>
        rw [hsign] at hc
        exact .inl (h.isDigit_of_mem_head? hc)
    | cons d rest =>
        rw [hsign] at hc
        obtain rfl := Option.some.inj hc
        exact .inr (Binary64.eq_of_mem_signText (by rw [hsign]; simp))
  exact ⟨y, bind_eq_ok_iff.2 ⟨.number y, Entry.ofText_of_read? htrim hhead hread, rfl⟩, hequal⟩

/-- The text of a plain numeral behind a currency symbol stores an equal amount. -/
theorem exists_ofInput?_amount
    {x : Number} {n : Numeral} {amount : Binary64} {symbol : Char}
    (h : PlainNumeral x n)
    (hequal : x.equal (.float amount) = true)
    (hsign : amount.isNegative = false)
    (hsymbol : symbol ∈ Number.currencySymbols) :
    ∃ y, ofInput? (String.ofList (symbol :: (Binary64.signText n.negative ++ n.text)))
        = .ok (some (.plain (.number (.float y)) .currency (some (currencyFormat symbol))))
      ∧ (Number.float y).equal x = true := by
  obtain ⟨hblank, hbracket, hequals⟩ :
      Text.isBlank symbol = false ∧ symbol ≠ '[' ∧ symbol ≠ '=' := by
    rcases Number.mem_currencySymbols_iff.1 hsymbol with rfl | rfl | rfl <;> decide
  obtain ⟨hpositive, y, hamount, hy⟩ := h.exists_amount? hequal hsign
  have hnosign : Binary64.signText n.negative = [] := by
    rw [hpositive]
    rfl
  have hraw : Text.trim (String.ofList (symbol :: n.text)).toList = symbol :: n.text := by
    rw [String.toList_ofList]
    exact trim_append_text h [symbol] (by simpa using hblank)
  have hcurrency : Entry.currency? (symbol :: n.text) = some (.currency symbol y) := by
    simp [Entry.currency?, hsymbol, hamount]
  have hentry := Entry.ofText_of_head hraw hbracket hequals
  rw [hcurrency] at hentry
  refine ⟨y, ?_, hy⟩
  rw [hnosign, List.nil_append]
  exact bind_eq_ok_iff.2 ⟨_, hentry, rfl⟩

/-- The symbol that the format of an amount names. -/
theorem currencySymbol?_currencyFormat
    {symbol : Char}
    (hsymbol : symbol ∈ Number.currencySymbols) :
    currencySymbol? (some (currencyFormat symbol)) (some defaultSymbol)
      = some (String.ofList [symbol]) := by
  rcases Number.mem_currencySymbols_iff.1 hsymbol with rfl | rfl | rfl <;> decide

theorem equal_number
    {x y : Number} {kind : Kind} {format : Option String}
    (h : y.equal x = true) :
    (Cell.plain (.number y) kind format).equal (.plain (.number x) kind format) = true := by
  simp [equal, equalValues, value?, typeName, formula?, format?, Scalar.equal,
    Scalar.comparand?, h]

theorem retypes_number
    {x : Number}
    (hfinite : x.isFinite = true)
    (htext : x.HasText) :
    (Cell.plain (.number x) .number none).Retypes := by
  obtain ⟨n, hnumeral, hplain⟩ := exists_plainNumeral hfinite htext
  obtain ⟨y, hinput, hequal⟩ := exists_ofInput?_number hnumeral
  refine ⟨_, ?_, _, hinput, equal_number hequal⟩
  rw [inputText, bind_of_eq_ok hplain]
  rfl

theorem retypes_amount
    {x : Number} {amount : Binary64} {symbol : Char}
    (htext : x.HasText)
    (hequal : x.equal (.float amount) = true)
    (hfinite : amount.isFinite = true)
    (hsign : amount.isNegative = false)
    (hsymbol : symbol ∈ Number.currencySymbols) :
    (Cell.plain (.number x) .currency (some (currencyFormat symbol))).Retypes := by
  obtain ⟨n, hnumeral, hplain⟩ :=
    exists_plainNumeral (Number.isFinite_of_equal hequal hfinite) htext
  obtain ⟨y, hinput, hy⟩ := exists_ofInput?_amount hnumeral hequal hsign hsymbol
  refine ⟨_, ?_, _, hinput, equal_number hy⟩
  rw [inputText, bind_of_eq_ok hplain, if_pos rfl, currencySymbol?_currencyFormat hsymbol]
  simp [pure, Except.pure]

/-- What equals a cell that holds a scalar holds one that equals it, of the same kind and
format. -/
theorem exists_of_equal_plain
    {value : Scalar} {kind : Kind} {format : Option String}
    (h : d.equal (.plain value kind format) = true) :
    ∃ value', d = .plain value' kind format ∧ value'.equal value = true := by
  simp only [equal, Bool.and_eq_true, beq_iff_eq] at h
  obtain ⟨⟨⟨hvalue, hkind⟩, hformula⟩, hformat⟩ := h
  cases d with
  | blank => cases hvalue
  | formula source hne format' => cases hformula
  | plain value' kind' format' =>
      obtain rfl : kind' = kind := by
        have hname := congrArg Kind.ofName? hkind
        simpa [typeName] using hname
      obtain rfl : format' = format := hformat
      exact ⟨value', rfl, hvalue⟩

theorem eq_of_equal_formula
    {source : String} {hne : source ≠ ""} {format : Option String}
    (h : d.equal (.formula source hne format) = true) :
    d = .formula source hne format := by
  simp only [equal, Bool.and_eq_true, beq_iff_eq] at h
  obtain ⟨⟨⟨-, -⟩, hformula⟩, hformat⟩ := h
  cases d with
  | blank => cases hformula
  | plain value kind format' => cases hformula
  | formula source' hne' format' =>
      obtain rfl : source' = source := Option.some.inj hformula
      obtain rfl : format' = format := hformat
      rfl

theorem eq_of_equal_text
    {value : Scalar} {text : String}
    (h : value.equal (.text text) = true) :
    value = .text text := by
  cases value with
  | text text' => rw [eq_of_beq h]
  | bool b => cases h
  | number x => cases h

theorem exists_of_equal_number
    {value : Scalar} {x : Number} {kind : Kind} {format : Option String}
    (h : value.equal (.number x) = true)
    (htruth : (Cell.plain value kind format).holdsTruth = false) :
    ∃ y, value = .number y ∧ y.equal x = true := by
  cases value with
  | text text => cases h
  | bool b => cases htruth
  | number y => exact ⟨y, rfl, h⟩

theorem retypes_same
    {text : String}
    (htext : c.inputText = .ok text)
    (hinput : ofInput? text = .ok (some c)) :
    c.Retypes :=
  ⟨text, htext, c, hinput, equalContents_of_ofInput? hinput⟩

/-- A cell that equals a typed one offers a text that stores an equal cell, unless one of
the two holds a truth value and the other a number. -/
theorem retypes_of_equal
    (hinput : ofInput? raw = .ok (some c))
    (hequal : d.equal c = true)
    (htruth : d.holdsTruth = c.holdsTruth) :
    d.Retypes := by
  obtain ⟨entry, hentry, h⟩ := bind_eq_ok_iff.1 hinput
  have hcell : ofTyped? entry = some c := Except.ok.inj h
  cases Entry.isReading_of_ofText hentry with
  | nothing => cases hcell
  | checkbox checked =>
      obtain rfl := Option.some.inj hcell
      obtain ⟨value, rfl, -⟩ := exists_of_equal_plain hequal
      cases value with
      | bool checked => cases checked <;> exact retypes_same rfl (by decide)
      | number x => cases htruth
      | text text => cases htruth
  | formula =>
      obtain ⟨hne, hcell⟩ := Option.dite_none_left_eq_some.1 hcell
      obtain rfl := Option.some.inj hcell
      obtain rfl := eq_of_equal_formula hequal
      have htrimmed := Entry.ofText_trimmed hentry (by simp)
      exact retypes_same rfl (bind_eq_ok_iff.2 ⟨_, htrimmed, congrArg Except.ok (dif_neg hne)⟩)
  | amount hsymbol hfinite hsign =>
      obtain rfl := Option.some.inj hcell
      obtain ⟨value, rfl, hvalue⟩ := exists_of_equal_plain hequal
      obtain ⟨y, rfl, hy⟩ := exists_of_equal_number hvalue htruth
      exact retypes_amount (Number.hasText_of_equal hy trivial) hy hfinite hsign hsymbol
  | number hfinite htext =>
      obtain rfl := Option.some.inj hcell
      obtain ⟨value, rfl, hvalue⟩ := exists_of_equal_plain hequal
      obtain ⟨y, rfl, hy⟩ := exists_of_equal_number hvalue htruth
      exact retypes_number (Number.isFinite_of_equal hy hfinite) (Number.hasText_of_equal hy htext)
  | date =>
      obtain rfl := Option.some.inj hcell
      obtain ⟨value, rfl, hvalue⟩ := exists_of_equal_plain hequal
      obtain rfl := eq_of_equal_text hvalue
      have htrimmed := Entry.ofText_trimmed hentry (by simp)
      exact retypes_same rfl (bind_eq_ok_iff.2 ⟨_, htrimmed, rfl⟩)
  | text =>
      obtain rfl := Option.some.inj hcell
      obtain ⟨value, rfl, hvalue⟩ := exists_of_equal_plain hequal
      obtain rfl := eq_of_equal_text hvalue
      exact retypes_same rfl hinput

/-- What is typed stores a cell that offers a text that stores an equal one. -/
theorem retypes_of_ofInput?
    (hinput : ofInput? raw = .ok (some c)) :
    c.Retypes :=
  retypes_of_equal hinput (equalContents_of_ofInput? hinput) rfl

end Cell

end Lemmas

end Spreadsheet
