import Spreadsheet.Formula.Evaluation
import Spreadsheet.Proofs.Formula.Cutting
import Spreadsheet.Proofs.Number.Capitals

/-!
# Formulas in capitals

What a formula is cut into does not depend on the case of its letters: in capitals it has
the same shape with its texts in capitals, and the same arguments, operands and pieces in
capitals.  Names, labels, ranges and numbers mean the same in either case.

Results: the shape of a text in capitals (`ofText?_capitals`), its arguments and operands
(`splitArguments_capitals`, `splitComparison_capitals`), what an argument says
(`ofText_capitals`), the pieces of arithmetic (`segments_capitals`), and two texts with the
same capitals are parsed as one expression, or neither is (`parse_of_capitals_eq`).
-/

namespace Spreadsheet

open Text (capitals toUpper_eq_iff)

section References

@[simp] theorem Reference.isLabelLetter_toUpper
    (c : Char) :
    Reference.isLabelLetter c.toUpper = Reference.isLabelLetter c :=
  Text.apply_toUpper (by decide) c

theorem Reference.splitLabel?_capitals
    (s : List Char) :
    Reference.splitLabel? (capitals s)
      = (Reference.splitLabel? s).map (Prod.map capitals capitals) := by
  unfold Reference.splitLabel?
  simp only [Text.takeWhile_capitals Reference.isLabelLetter_toUpper,
    Text.dropWhile_capitals Reference.isLabelLetter_toUpper, Text.isEmpty_capitals,
    Text.all_capitals Text.isDigit_toUpper]
  split <;> rfl

theorem Reference.ofParts?_capitals
    (letters digits : List Char) :
    Reference.ofParts? (capitals letters) (capitals digits)
      = Reference.ofParts? letters digits := by
  simp only [Reference.ofParts?, Reference.columnIndex, Text.length_capitals,
    Text.decimalNat_capitals, Text.upper_capitals]

/-- A label names the same cell in either case. -/
theorem Reference.parse?_capitals
    (s : List Char) :
    Reference.parse? (capitals s) = Reference.parse? s := by
  rw [Reference.parse?, Text.trim_capitals, Reference.splitLabel?_capitals, Reference.parse?]
  cases Reference.splitLabel? (Text.trim s) with
  | none => rfl
  | some parts => exact Reference.ofParts?_capitals parts.1 parts.2

theorem splitOn_capitals
    {d : Char}
    (hd : d.isAlpha = false)
    (s : List Char) :
    (capitals s).splitOn d = (s.splitOn d).map capitals := by
  induction s with
  | nil => simp
  | cons c s ih =>
      rw [Text.capitals_cons, List.splitOn_cons_eq_if_modifyHead,
        List.splitOn_cons_eq_if_modifyHead, Text.toUpper_beq hd, ih]
      split
      · rfl
      · cases s.splitOn d <;> rfl

/-- Two labels name the same range in either case. -/
theorem Range.parse?_capitals
    (s : List Char) :
    Range.parse? (capitals s) = Range.parse? s := by
  unfold Range.parse?
  rw [splitOn_capitals (by decide)]
  rcases s.splitOn ':' with _ | ⟨first, _ | ⟨second, _ | ⟨third, others⟩⟩⟩
  · rfl
  · rfl
  · simp only [List.map_cons, List.map_nil, Reference.parse?_capitals]
  · rfl

end References

namespace Formula

section Names

@[simp] theorem nameLetter_toUpper
    (c : Char) :
    nameLetter c.toUpper = nameLetter c :=
  Text.apply_toUpper (by decide) c

theorem map_nameLetter_capitals
    (s : List Char) :
    (capitals s).map nameLetter = s.map nameLetter := by
  rw [capitals, List.map_map]
  exact List.map_congr_left fun c _ => nameLetter_toUpper c

/-- The name of a call does not depend on the case of its letters. -/
theorem callParts?_capitals
    (s : List Char) :
    callParts? (capitals s) = (callParts? s).map (Prod.map id capitals) := by
  have hopen : ∀ c : Char, (c.toUpper != '(') = (c != '(') :=
    fun c => congrArg not (Text.toUpper_beq (by decide) c)
  unfold callParts?
  simp only [Text.takeWhile_capitals (p := (· != '(')) hopen,
    Text.dropWhile_capitals (p := (· != '(')) hopen, Text.trim_capitals, map_nameLetter_capitals]
  cases s.dropWhile (· != '(') with
  | nil => rfl
  | cons c tail =>
      have hlast : (capitals tail).getLast? = some ')' ↔ tail.getLast? = some ')' := by
        rw [capitals, List.getLast?_map]
        cases tail.getLast? with
        | none => simp
        | some d =>
            have hclosing : ')'.isAlpha = false := by decide
            simp only [Option.map_some, Option.some.injEq, toUpper_eq_iff hclosing]
      have hinner : (capitals tail).dropLast = capitals tail.dropLast := List.map_dropLast.symm
      simp only [Text.capitals_cons, hlast, hinner]
      split <;> rfl

end Names

section Shapes

/-- The shape with its texts in capitals. -/
def Shape.capitals : Shape → Shape
  | .today => .today
  | .aggregate f range => .aggregate f (Text.capitals range)
  | .condition arguments => .condition (Text.capitals arguments)
  | .join arguments => .join (Text.capitals arguments)
  | .reference letters digits => .reference (Text.capitals letters) (Text.capitals digits)
  | .arithmetic expression => .arithmetic (Text.capitals expression)

theorem ofCall?_capitals
    (name : String) (arguments : List Char) :
    Shape.ofCall? name (capitals arguments)
      = (Shape.ofCall? name arguments).map Shape.capitals := by
  have hclosing : (capitals arguments).contains ')' = arguments.contains ')' := by
    rw [Bool.eq_iff_iff, List.contains_iff_mem, List.contains_iff_mem,
      Text.mem_capitals_iff (by decide)]
  unfold Shape.ofCall?
  rw [hclosing, Text.isEmpty_capitals, Text.all_capitals Text.isBlank_toUpper]
  split
  · split <;> rfl
  split
  · split <;> rfl
  split
  · rfl
  split <;> rfl

theorem ofBody_capitals
    (s : List Char) :
    Shape.ofBody (capitals s) = (Shape.ofBody s).capitals := by
  unfold Shape.ofBody
  rw [callParts?_capitals, Text.trim_capitals, Reference.splitLabel?_capitals]
  cases callParts? s with
  | none => cases Reference.splitLabel? (Text.trim s) <;> rfl
  | some parts =>
      simp only [Option.map_some, Option.bind_some, Prod.map, id_eq, ofCall?_capitals]
      cases Shape.ofCall? parts.1 parts.2 with
      | none => cases Reference.splitLabel? (Text.trim s) <;> rfl
      | some shape => rfl

/-- In capitals a formula has the same shape, with its texts in capitals. -/
theorem ofText?_capitals
    (s : List Char) :
    Shape.ofText? (capitals s) = (Shape.ofText? s).map Shape.capitals := by
  have hnone : ∀ {c : Char} {s : List Char}, c ≠ '=' → Shape.ofText? (c :: s) = none := by
    intro c s hc
    unfold Shape.ofText?
    split
    · next h => exact absurd (List.cons.inj h).1 hc
    · rfl
  cases s with
  | nil => rfl
  | cons c s =>
      by_cases hequals : c = '='
      · rw [hequals]
        exact congrArg some (ofBody_capitals s)
      · have hcapital : c.toUpper ≠ '=' := by rwa [ne_eq, toUpper_eq_iff (by decide)]
        rw [Text.capitals_cons, hnone hcapital, hnone hequals, Option.map_none]

end Shapes

section Arguments

theorem scanArguments_capitals
    (position depth : Nat) (inQuotes : Bool) (current s : List Char) :
    scanArguments position depth inQuotes (capitals current) (capitals s)
      = (scanArguments position depth inQuotes current s).map (List.map capitals) := by
  have hmark : '"'.isAlpha = false ∧ '('.isAlpha = false ∧ ')'.isAlpha = false
      ∧ ','.isAlpha = false := by decide
  obtain ⟨hquote, hopen, hclose, hcomma⟩ := hmark
  induction s generalizing position depth inQuotes current with
  | nil =>
      simp only [Text.capitals_nil, scanArguments, ← Text.capitals_reverse, Text.trim_capitals]
      split
      · rfl
      split <;> rfl
  | cons c s ih =>
      have hread : ∀ position depth inQuotes,
          scanArguments position depth inQuotes (c.toUpper :: capitals current) (capitals s)
            = (scanArguments position depth inQuotes (c :: current) s).map (List.map capitals) :=
        fun position depth inQuotes => ih position depth inQuotes (c :: current)
      have hnext : scanArguments (position + 1) depth inQuotes [] (capitals s)
          = (scanArguments (position + 1) depth inQuotes [] s).map (List.map capitals) :=
        ih (position + 1) depth inQuotes []
      simp only [Text.capitals_cons, scanArguments, toUpper_eq_iff hquote,
        toUpper_eq_iff hopen, toUpper_eq_iff hclose, toUpper_eq_iff hcomma, hread,
        hnext]
      split
      · rfl
      split
      · rfl
      split
      · rfl
      split
      · split <;> rfl
      split
      · rw [← Text.capitals_reverse, Text.trim_capitals]
        cases scanArguments (position + 1) depth inQuotes [] s <;> rfl
      · rfl

/-- In capitals a text has the same arguments, in capitals. -/
theorem splitArguments_capitals
    (s : List Char) :
    splitArguments (capitals s) = (splitArguments s).map (List.map capitals) := by
  have hscan := scanArguments_capitals 0 0 false [] s
  unfold splitArguments
  rw [Text.capitals_nil] at hscan
  rw [hscan]
  cases scanArguments 0 0 false [] s with
  | error fault => rfl
  | ok args =>
      rcases args with _ | ⟨_ | ⟨c, first⟩, _ | ⟨second, others⟩⟩ <;> rfl

/-- A comparison sign has no letters. -/
theorem atFront?_capitals
    (s : List Char) :
    Comparison.atFront? (capitals s) = (Comparison.atFront? s).map (Prod.map id capitals) := by
  have hnone : ∀ {c : Char} {s : List Char}, ¬ (c = '>' ∨ c = '<' ∨ c = '!' ∨ c = '=') →
      Comparison.atFront? (c :: s) = none := fun hc =>
    Option.eq_none_iff_forall_ne_some.2 fun _ h => hc (mem_of_atFront? h)
  have hsign : '>'.isAlpha = false ∧ '<'.isAlpha = false ∧ '!'.isAlpha = false
      ∧ '='.isAlpha = false := by decide
  obtain ⟨hgreater, hless, hbang, hequals⟩ := hsign
  cases s with
  | nil => rfl
  | cons c s =>
      by_cases hc : c = '>' ∨ c = '<' ∨ c = '!' ∨ c = '='
      · cases s with
        | nil => rcases hc with rfl | rfl | rfl | rfl <;> rfl
        | cons d s =>
            have hd := toUpper_eq_iff (c := d) hequals
            have hd' := toUpper_eq_iff (c := d) hgreater
            rcases hc with rfl | rfl | rfl | rfl
            · by_cases hlonger : d = '='
              · rw [hlonger]
                rfl
              · simp [Comparison.atFront?, hd, hlonger]
            · by_cases hlonger : d = '='
              · rw [hlonger]
                rfl
              by_cases hunequal : d = '>'
              · rw [hunequal]
                rfl
              · simp [Comparison.atFront?, hd, hd', hlonger, hunequal]
            · by_cases hlonger : d = '='
              · rw [hlonger]
                rfl
              · simp [Comparison.atFront?, hd, hlonger]
            · rfl
      · have hcapital : ¬ (c.toUpper = '>' ∨ c.toUpper = '<' ∨ c.toUpper = '!'
            ∨ c.toUpper = '=') := by
          simpa only [toUpper_eq_iff hgreater, toUpper_eq_iff hless, toUpper_eq_iff hbang,
            toUpper_eq_iff hequals] using hc
        rw [Text.capitals_cons, hnone hcapital, hnone hc, Option.map_none]

theorem scanComparison_capitals
    (depth : Int) (inQuotes : Bool) (before s : List Char) :
    scanComparison depth inQuotes (capitals before) (capitals s)
      = (scanComparison depth inQuotes before s).map
        (Prod.map capitals (Prod.map id capitals)) := by
  have hmark : '"'.isAlpha = false ∧ '('.isAlpha = false ∧ ')'.isAlpha = false := by decide
  obtain ⟨hquote, hopen, hclose⟩ := hmark
  induction s generalizing depth inQuotes before with
  | nil => rfl
  | cons c s ih =>
      have hread : ∀ depth inQuotes,
          scanComparison depth inQuotes (c.toUpper :: capitals before) (capitals s)
            = (scanComparison depth inQuotes (c :: before) s).map
              (Prod.map capitals (Prod.map id capitals)) :=
        fun depth inQuotes => ih depth inQuotes (c :: before)
      have hfront := atFront?_capitals (c :: s)
      rw [Text.capitals_cons] at hfront
      simp only [Text.capitals_cons, scanComparison, toUpper_eq_iff hquote, toUpper_eq_iff hopen,
        toUpper_eq_iff hclose, hread, hfront]
      split
      · rfl
      split
      · rfl
      split
      · rfl
      split
      · rfl
      split
      · cases Comparison.atFront? (c :: s) with
        | none => rfl
        | some found => simp [Prod.map, Text.capitals_reverse]
      · rfl

/-- In capitals a condition has the same sign, and its operands in capitals. -/
theorem splitComparison_capitals
    {s left right : List Char} {sign : Comparison}
    (h : splitComparison s = .ok (left, sign, right)) :
    splitComparison (capitals s) = .ok (capitals left, sign, capitals right) := by
  have hscan := scanComparison_capitals 0 false [] s
  unfold splitComparison at h ⊢
  rw [Text.capitals_nil] at hscan
  rw [hscan]
  cases hfound : scanComparison 0 false [] s with
  | none =>
      rw [hfound] at h
      cases h
  | some parts =>
      rw [hfound] at h
      obtain ⟨rfl, rfl, rfl⟩ : Text.trim parts.1 = left ∧ parts.2.1 = sign
          ∧ Text.trim parts.2.2 = right := by simpa using h
      simp [Prod.map]

/-- A text that is refused as a condition is refused in capitals too. -/
theorem exists_splitComparison_capitals
    {s : List Char} {fault : SyntaxFault}
    (h : splitComparison s = .error fault) :
    ∃ fault', splitComparison (capitals s) = .error fault' := by
  have hscan := scanComparison_capitals 0 false [] s
  unfold splitComparison at h ⊢
  rw [Text.capitals_nil] at hscan
  rw [hscan]
  cases hfound : scanComparison 0 false [] s with
  | none => exact ⟨_, rfl⟩
  | some parts =>
      rw [hfound] at h
      cases h

/-- An argument without quotes says the same in either case. -/
theorem ofText_capitals
    {s : List Char}
    (h : '"' ∉ s) :
    Argument.ofText (capitals s) = Argument.ofText s := by
  have hquoted : ∀ {t : List Char}, '"' ∉ t → isQuoted t = false := by
    intro t ht
    cases t with
    | nil => rfl
    | cons c t =>
        have hc : c ≠ '"' := fun hc => ht (by simp [hc])
        simp [isQuoted, hc]
  have hcapital : '"' ∉ capitals s := by rwa [Text.mem_capitals_iff (by decide)]
  unfold Argument.ofText
  rw [hquoted h, hquoted hcapital, Number.read?_capitals, Reference.parse?_capitals,
    Text.isEmpty_capitals]
  rfl

end Arguments

section Arithmetic

/-- The piece in capitals. -/
def Segment.capitals : Segment → Segment
  | .verbatim text => .verbatim (Text.capitals text)
  | .label letters digits => .label (Text.capitals letters) (Text.capitals digits)

/-- In capitals arithmetic has the same pieces, in capitals. -/
theorem segments_capitals
    (s : List Char) :
    segments (capitals s) = (segments s).map Segment.capitals := by
  have hletters := Text.takeWhile_capitals Reference.isLabelLetter_toUpper
  have hrest := Text.dropWhile_capitals Reference.isLabelLetter_toUpper
  have hdigits := Text.takeWhile_capitals Text.isDigit_toUpper
  have hafter := Text.dropWhile_capitals Text.isDigit_toUpper
  fun_induction segments s with
  | case1 => rw [Text.capitals_nil, segments, List.map_nil]
  | case2 c r hnone ih =>
      have hcapital : (c.toUpper :: capitals r).takeWhile Reference.isLabelLetter = [] := by
        rw [← Text.capitals_cons, hletters, hnone, Text.capitals_nil]
      rw [Text.capitals_cons, segments, dif_pos hcapital, ih]
      rfl
  | case3 c r hsome letters rest digits hnone ih =>
      have hcapital : (c.toUpper :: capitals r).takeWhile Reference.isLabelLetter ≠ [] := by
        rwa [← Text.capitals_cons, hletters, ne_eq, Text.capitals_eq_nil_iff]
      rw [Text.capitals_cons, segments, dif_neg hcapital]
      simp only [← Text.capitals_cons, hletters, hrest, hdigits, Text.isEmpty_capitals]
      rw [if_pos hnone, ih]
      rfl
  | case4 c r hsome letters rest digits hnone ih =>
      have hcapital : (c.toUpper :: capitals r).takeWhile Reference.isLabelLetter ≠ [] := by
        rwa [← Text.capitals_cons, hletters, ne_eq, Text.capitals_eq_nil_iff]
      rw [Text.capitals_cons, segments, dif_neg hcapital]
      simp only [← Text.capitals_cons, hletters, hrest, hdigits, hafter, Text.isEmpty_capitals]
      rw [if_neg hnone, ih]
      rfl

theorem isArithmeticChar_toUpper
    (c : Char) :
    isArithmeticChar c.toUpper = isArithmeticChar c :=
  Text.apply_toUpper (by decide) c

/-- Arithmetic has no letters. -/
theorem capitals_eq_self_of_arithmetic
    {s : List Char}
    (h : s.all isArithmeticChar = true) :
    capitals s = s := by
  have hnone : ∀ k < 26, isArithmeticChar (Char.ofNat (97 + k)) = false := by decide
  exact Text.capitals_eq_self fun c hc => Text.toUpper_of_kind hnone (List.all_eq_true.1 h c hc)

/-- Texts with the same capitals are parsed as the same expression, or neither is parsed. -/
theorem parse_of_capitals_eq
    {s t : List Char}
    (h : capitals s = capitals t) :
    s = t ∨ (∃ fault, Expression.parse s = .error fault)
      ∧ ∃ fault, Expression.parse t = .error fault := by
  have hall : s.all isArithmeticChar = t.all isArithmeticChar := by
    rw [← Text.all_capitals isArithmeticChar_toUpper s, h,
      Text.all_capitals isArithmeticChar_toUpper]
  by_cases hs : s.all isArithmeticChar = true
  · have ht : t.all isArithmeticChar = true := hall ▸ hs
    rw [capitals_eq_self_of_arithmetic hs, capitals_eq_self_of_arithmetic ht] at h
    exact .inl h
  · have ht : ¬ t.all isArithmeticChar = true := hall ▸ hs
    have hrefused : ∀ u : List Char, ¬ u.all isArithmeticChar = true →
        ∃ fault, Expression.parse u = .error fault := by
      intro u hu
      exact ⟨_, by rw [Expression.parse, if_pos (by simp [hu])]⟩
    exact .inr ⟨hrefused s hs, hrefused t ht⟩

end Arithmetic

end Formula
end Spreadsheet
