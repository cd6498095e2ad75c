import Spreadsheet.Proofs.Except
import Spreadsheet.Proofs.Formula.Mentions
import Spreadsheet.Proofs.Formula.Printing
import Spreadsheet.Proofs.Json.Number

/-!
# Written arithmetic

Integer expressions over literals and cells, and the texts that write them.  A
text has at least the parentheses that the binding of the operations asks for:
signs bind tightest, then products, then sums and differences, and both of the
latter group to the left.  Spaces and tabs stand wherever two tokens meet.

Results: a written expression stays one when the blanks at its end are dropped
(`IsWritten.trimRight`), and its shape is arithmetic or the single cell that it is
(`IsWritten.ofBody_cases`), never a call of a function.
-/

namespace Spreadsheet
namespace Formula

/-- An integer expression. -/
inductive Term where
  | literal (digits : List Char)
  | cell (r : Reference)
  | signed (sign : Sign) (operand : Term)
  /-- A sum or, with a minus sign, a difference. -/
  | sum (sign : Sign) (left right : Term)
  | product (left right : Term)
deriving DecidableEq, Repr

namespace Term

/-- The integer that an expression stands for, given those in the cells. -/
def value (cells : Reference → Int) : Term → Int
  | .literal digits => Text.decimalNat digits
  | .cell r => cells r
  | .signed .plus t => t.value cells
  | .signed .minus t => -t.value cells
  | .sum .plus s t => s.value cells + t.value cells
  | .sum .minus s t => s.value cells - t.value cells
  | .product s t => s.value cells * t.value cells

/-- The literals of an expression. -/
def literals : Term → List (List Char)
  | .literal digits => [digits]
  | .cell _ => []
  | .signed _ t => t.literals
  | .sum _ s t | .product s t => s.literals ++ t.literals

/-- The cells of an expression. -/
def references : Term → List Reference
  | .literal _ => []
  | .cell r => [r]
  | .signed _ t => t.references
  | .sum _ s t | .product s t => s.references ++ t.references

end Term

/-- A character that may stand between two tokens. -/
def IsSpace (c : Char) : Prop := c = ' ' ∨ c = '\t'

/-- The text writes the expression; `name` says which texts write a cell. -/
inductive IsWritten (name : Reference → List Char → Prop) : Binding → Term → List Char → Prop
  | literal
      {digits : List Char}
      (hne : digits ≠ [])
      (hdigits : ∀ c ∈ digits, c.isDigit = true) :
      IsWritten name .operand (.literal digits) digits
  | cell
      {r : Reference} {s : List Char}
      (hname : name r s) :
      IsWritten name .operand (.cell r) s
  | signed
      {t : Term} {s : List Char}
      (sign : Sign)
      (operand : IsWritten name .operand t s) :
      IsWritten name .operand (.signed sign t) (sign.char :: s)
  | parentheses
      {t : Term} {s : List Char}
      (inner : IsWritten name .sum t s) :
      IsWritten name .operand t ('(' :: s ++ [')'])
  | product
      {t u : Term} {s s' : List Char}
      (left : IsWritten name .product t s)
      (right : IsWritten name .operand u s') :
      IsWritten name .product (.product t u) (s ++ '*' :: s')
  | sum
      {t u : Term} {s s' : List Char}
      (sign : Sign)
      (left : IsWritten name .sum t s)
      (right : IsWritten name .product u s') :
      IsWritten name .sum (.sum sign t u) (s ++ sign.char :: s')
  | ofOperand
      {t : Term} {s : List Char}
      (operand : IsWritten name .operand t s) :
      IsWritten name .product t s
  | ofProduct
      {t : Term} {s : List Char}
      (product : IsWritten name .product t s) :
      IsWritten name .sum t s
  | spaceBefore
      {binding : Binding} {t : Term} {s : List Char} {c : Char}
      (hspace : IsSpace c)
      (inner : IsWritten name binding t s) :
      IsWritten name binding t (c :: s)
  | spaceAfter
      {binding : Binding} {t : Term} {s : List Char} {c : Char}
      (hspace : IsSpace c)
      (inner : IsWritten name binding t s) :
      IsWritten name binding t (s ++ [c])

/-- The text is the label of the cell, with letters of either case. -/
def IsLabelOf (r : Reference) (s : List Char) : Prop :=
  ∃ label, r.label = .ok label ∧ s.map Char.toUpper = label.toList

section Labels

/-- Letters and digits that are read as a cell. -/
structure IsNamedBy (r : Reference) (letters digits : List Char) : Prop where
  letters_ne_nil : letters ≠ []
  digits_ne_nil : digits ≠ []
  isLabelLetter : ∀ c ∈ letters, Reference.isLabelLetter c = true
  isDigit : ∀ c ∈ digits, c.isDigit = true
  reads : Reference.ofParts? letters digits = .ok (some r)

theorem isAlpha_of_isCapital_toUpper
    {c : Char}
    (h : Reference.IsCapital c.toUpper) :
    c.isAlpha = true ∧ c.toNat < 0x80 := by
  rcases Text.toUpper_cases c with hsame | ⟨⟨hfrom, hto⟩, -⟩
  · rw [hsame] at h
    obtain ⟨hfrom, hto⟩ := h
    exact ⟨Text.isAlpha_iff_toNat.2 (.inl ⟨hfrom, hto⟩), by omega⟩
  · exact ⟨Text.isAlpha_iff_toNat.2 (.inr ⟨hfrom, hto⟩), by omega⟩

theorem toUpper_of_isDigit_toUpper
    {c : Char}
    (h : c.toUpper.isDigit = true) :
    c.toUpper = c := by
  rcases Text.toUpper_cases c with hsame | ⟨⟨hfrom, -⟩, htoNat⟩
  · exact hsame
  · have hto : c.toUpper.toNat ≤ 57 := (Char.isDigit_iff_toNat.1 h).2
    omega

/-- A label is read as its cell whatever the case of its letters. -/
theorem IsLabelOf.exists_parts
    {r : Reference} {s : List Char}
    (h : IsLabelOf r s) :
    ∃ letters digits, s = letters ++ digits ∧ IsNamedBy r letters digits := by
  obtain ⟨label, hlabel, hs⟩ := h
  obtain ⟨htext, hwritable⟩ := Reference.toList_label hlabel
  rw [htext] at hs
  obtain ⟨letters, digits, rfl, hletters, hdigits⟩ := List.map_eq_append_iff.1 hs
  have hcapital : ∀ c ∈ letters, Reference.IsCapital c.toUpper := by
    intro c hc
    have hmem : c.toUpper ∈ Reference.columnLetters r.col := by
      rw [← hletters]
      exact List.mem_map_of_mem hc
    exact Reference.isCapital_of_mem_columnLetters hmem
  have hsame : digits.map Char.toUpper = digits := by
    refine (List.map_congr_left fun c hc => toUpper_of_isDigit_toUpper ?_).trans (List.map_id _)
    refine Text.isDigit_of_mem_toDigits (n := r.row + 1) ?_
    rw [← hdigits]
    exact List.mem_map_of_mem hc
  rw [hsame] at hdigits
  refine ⟨letters, digits, rfl, ?_⟩
  constructor
  case letters_ne_nil =>
    rintro rfl
    simp [Reference.columnLetters, Reference.lettersOf_succ] at hletters
  case digits_ne_nil =>
    rintro rfl
    exact Nat.toDigits_ne_nil hdigits.symm
  case isLabelLetter =>
    intro c hc
    simp [Reference.isLabelLetter, (isAlpha_of_isCapital_toUpper (hcapital c hc)).1]
  case isDigit =>
    intro c hc
    rw [hdigits] at hc
    exact Text.isDigit_of_mem_toDigits hc
  case reads =>
    have hlength : digits.length ≤ digitLimit := by
      have hnat : ((r.row : Int) + 1).natAbs = r.row + 1 := by omega
      rw [hdigits, ← hnat]
      exact Json.length_toDigits_le hwritable
    have hcolumn : Reference.columnIndex letters = r.col := by
      have hascii : ∀ c ∈ letters, c.toNat < 0x80 :=
        fun c hc => (isAlpha_of_isCapital_toUpper (hcapital c hc)).2
      calc Reference.columnIndex letters
          = Reference.columnNumber (letters.map Char.toUpper) - 1 := by
            rw [Reference.columnIndex, Text.upper_of_ascii hascii, Text.capitals]
        _ = Reference.columnIndex (Reference.columnLetters r.col) := by
            rw [hletters, Reference.columnIndex, Reference.upper_of_isCapital fun c hc =>
              Reference.isCapital_of_mem_columnLetters hc]
        _ = r.col := Reference.columnIndex_columnLetters r.col
    rw [Reference.ofParts?, if_neg (Nat.not_lt.2 hlength), hdigits, Text.decimalNat_toDigits]
    simp [hcolumn]

end Labels

section Trimming

variable {binding : Binding} {t : Term} {s : List Char}

theorem isBlank_of_isSpace
    {c : Char}
    (h : IsSpace c) :
    Text.isBlank c = true := by
  rcases h with rfl | rfl <;> decide

theorem trimRight_append
    (s t : List Char) :
    Text.trimRight (s ++ t)
      = if Text.trimRight t = [] then Text.trimRight s else s ++ Text.trimRight t := by
  unfold Text.trimRight
  rw [List.reverse_append, List.dropWhile_append]
  by_cases h : t.reverse.dropWhile Text.isBlank = []
  · simp [h]
  · simp [h]

theorem trimRight_of_last
    {s : List Char}
    (h : ∀ c ∈ s.getLast?, Text.isBlank c = false) :
    Text.trimRight s = s := by
  unfold Text.trimRight
  cases hs : s.reverse with
  | nil => rw [List.reverse_eq_nil_iff.1 hs]; rfl
  | cons c r =>
      have hc : Text.isBlank c = false := h c (by rw [← List.head?_reverse, hs]; simp)
      rw [List.dropWhile_cons_of_neg (by simp [hc]), ← hs, List.reverse_reverse]

theorem trimRight_append_cons
    {c : Char}
    (hc : Text.isBlank c = false)
    (s t : List Char) :
    Text.trimRight (s ++ c :: t) = s ++ c :: Text.trimRight t := by
  rw [trimRight_append, trimRight_cons hc, if_neg (by simp)]

theorem Sign.not_isBlank_char
    (sign : Sign) :
    Text.isBlank sign.char = false := by
  cases sign <;> decide

theorem IsLabelOf.getLast?_not_blank
    {r : Reference}
    (h : IsLabelOf r s) :
    ∀ c ∈ s.getLast?, Text.isBlank c = false := by
  obtain ⟨letters, digits, rfl, hparts⟩ := h.exists_parts
  intro c hc
  rw [List.getLast?_append_of_ne_nil _ hparts.digits_ne_nil] at hc
  exact Text.not_isBlank_of_isDigit (hparts.isDigit c (List.mem_of_getLast? hc))

theorem IsLabelOf.ne_nil
    {r : Reference}
    (h : IsLabelOf r s) :
    s ≠ [] := by
  obtain ⟨letters, digits, rfl, hparts⟩ := h.exists_parts
  simp [hparts.letters_ne_nil]

theorem IsWritten.ne_nil
    {name : Reference → List Char → Prop}
    (hname : ∀ r s, name r s → s ≠ [])
    (h : IsWritten name binding t s) :
    s ≠ [] := by
  induction h with
  | literal hne _ => exact hne
  | cell h => exact hname _ _ h
  | ofOperand _ ih => exact ih
  | ofProduct _ ih => exact ih
  | _ => simp

/-- A written expression stays one without the blanks at its end. -/
theorem IsWritten.trimRight
    (h : IsWritten IsLabelOf binding t s) :
    IsWritten IsLabelOf binding t (Text.trimRight s) := by
  induction h with
  | literal hne hdigits =>
      rw [trimRight_of_last fun c hc =>
        Text.not_isBlank_of_isDigit (hdigits c (List.mem_of_getLast? hc))]
      exact .literal hne hdigits
  | cell hname =>
      rw [trimRight_of_last hname.getLast?_not_blank]
      exact .cell hname
  | signed sign _ ih =>
      rw [trimRight_cons sign.not_isBlank_char]
      exact .signed sign ih
  | parentheses inner ih =>
      rw [trimRight_append_cons (by decide)]
      exact .parentheses inner
  | product left _ _ ih =>
      rw [trimRight_append_cons (by decide)]
      exact .product left ih
  | sum sign left _ _ ih =>
      rw [trimRight_append_cons sign.not_isBlank_char]
      exact .sum sign left ih
  | ofOperand _ ih => exact .ofOperand ih
  | ofProduct _ ih => exact .ofProduct ih
  | @spaceBefore _ _ s c hspace _ ih =>
      rw [← List.singleton_append, trimRight_append,
        if_neg (ih.ne_nil fun _ _ hname => hname.ne_nil)]
      exact .spaceBefore hspace ih
  | @spaceAfter _ _ s c hspace _ ih =>
      have hempty : Text.trimRight [c] = [] := by
        simp [Text.trimRight, isBlank_of_isSpace hspace]
      rw [trimRight_append, if_pos hempty]
      exact ih

end Trimming

section Shapes

variable {binding : Binding} {t : Term} {s : List Char}

/-- A character of an expression that is in no name of a function. -/
def IsMark (c : Char) : Prop := c.isDigit = true ∨ c = '+' ∨ c = '-' ∨ c = '*'

instance (c : Char) : Decidable (IsMark c) :=
  inferInstanceAs (Decidable (_ ∨ _))

/-- Nothing stands before the first parenthesis, or something that no name of a
function holds. -/
inductive NamesNoFunction : List Char → Prop
  | opening
      {front rest : List Char}
      (hfront : ∀ c ∈ front, Text.isBlank c = true) :
      NamesNoFunction (front ++ '(' :: rest)
  | mark
      {front rest : List Char} {c : Char}
      (hfront : '(' ∉ front)
      (hmark : IsMark c) :
      NamesNoFunction (front ++ c :: rest)

theorem NamesNoFunction.append
    (h : NamesNoFunction s)
    (rest : List Char) :
    NamesNoFunction (s ++ rest) := by
  cases h with
  | opening hfront =>
      rw [List.append_assoc, List.cons_append]
      exact .opening hfront
  | mark hfront hmark =>
      rw [List.append_assoc, List.cons_append]
      exact .mark hfront hmark

theorem NamesNoFunction.spaceBefore
    {c : Char}
    (hspace : IsSpace c)
    (h : NamesNoFunction s) :
    NamesNoFunction (c :: s) := by
  cases h with
  | @opening front rest hfront =>
      rw [← List.cons_append]
      refine .opening fun d hd => ?_
      rcases List.mem_cons.1 hd with rfl | hd
      · exact isBlank_of_isSpace hspace
      · exact hfront d hd
  | mark hfront hmark =>
      have hne : '(' ≠ c := by rcases hspace with rfl | rfl <;> decide
      rw [← List.cons_append]
      exact .mark (by simp [hne, hfront]) hmark

theorem IsWritten.namesNoFunction
    (h : IsWritten IsLabelOf binding t s) :
    NamesNoFunction s := by
  have hfirst : ∀ {c : Char} {s : List Char}, IsMark c → NamesNoFunction ([] ++ c :: s) :=
    fun hc => .mark List.not_mem_nil hc
  induction h with
  | literal hne hdigits =>
      obtain ⟨c, digits, rfl⟩ := List.exists_cons_of_ne_nil hne
      exact hfirst (.inl (hdigits c (by simp)))
  | cell hname =>
      obtain ⟨letters, digits, rfl, hparts⟩ := hname.exists_parts
      obtain ⟨c, digits, rfl⟩ := List.exists_cons_of_ne_nil hparts.digits_ne_nil
      refine .mark (fun hopen => ?_) (.inl (hparts.isDigit c (by simp)))
      have hletter := hparts.isLabelLetter '(' hopen
      exact absurd hletter (by decide)
  | signed sign _ _ => exact hfirst (by cases sign <;> decide)
  | @parentheses _ s _ _ =>
      have hopen : NamesNoFunction ([] ++ '(' :: (s ++ [')'])) := .opening (by simp)
      exact hopen
  | product _ _ ih _ => exact ih.append _
  | sum _ _ _ ih _ => exact ih.append _
  | ofOperand _ ih => exact ih
  | ofProduct _ ih => exact ih
  | spaceBefore hspace _ ih => exact ih.spaceBefore hspace
  | spaceAfter _ _ ih => exact ih.append _

/-- The names of the functions. -/
def functionNames : List String :=
  ["SUM", "AVERAGE", "AVG", "COUNT", "MIN", "MAX", "TODAY", "IF", "CONCAT", "CONCATENATE"]

theorem mem_functionNames_of_ofCall?
    {name : String} {arguments : List Char} {shape : Shape}
    (h : Shape.ofCall? name arguments = some shape) :
    name ∈ functionNames := by
  unfold Shape.ofCall? at h
  split at h
  · next f hf =>
      unfold Aggregate.ofName? at hf
      split at hf <;> simp_all [functionNames]
  · repeat' split at h
    all_goals simp_all [functionNames]

/-- What is not dropped stays. -/
theorem mem_dropWhile
    {p : Char → Bool} {c : Char}
    (hp : p c = false)
    (hc : c ∈ s) :
    c ∈ s.dropWhile p := by
  rw [← List.takeWhile_append_dropWhile (p := p) (l := s)] at hc
  rcases List.mem_append.1 hc with hc | hc
  · rw [List.mem_takeWhile_imp hc] at hp
    cases hp
  · exact hc

theorem nameLetter_of_isMark
    {c : Char}
    (h : IsMark c) :
    nameLetter c = c := by
  rcases h with hdigit | rfl | rfl | rfl
  · have hto : c.toNat ≤ 57 := (Char.isDigit_iff_toNat.1 hdigit).2
    have hne : ∀ d : Char, 57 < d.toNat → c ≠ d := by
      rintro d hd rfl
      omega
    have hupper : c.toUpper = c := by
      rcases Text.toUpper_cases c with hsame | ⟨⟨hfrom, -⟩, -⟩
      · exact hsame
      · omega
    simp [nameLetter, hne 'ı' (by decide), hne 'İ' (by decide), hne 'ſ' (by decide),
      hne '\u212a' (by decide), hupper]
  all_goals decide

theorem not_isMark_of_mem_functionNames :
    ∀ name ∈ functionNames, name ≠ "" ∧ ∀ c ∈ name.toList, ¬ IsMark c := by
  have hall : functionNames.all (fun name =>
      name != "" && name.toList.all fun c => decide (¬ IsMark c)) = true := by decide
  intro name hname
  have hone := List.all_eq_true.1 hall name hname
  rw [Bool.and_eq_true, bne_iff_ne, List.all_eq_true] at hone
  exact ⟨hone.1, fun c hc => of_decide_eq_true (hone.2 c hc)⟩

theorem eq_name_of_callParts?
    {name : String} {arguments : List Char}
    (h : callParts? s = some (name, arguments)) :
    name = String.ofList ((Text.trim (s.takeWhile (· != '('))).map nameLetter) := by
  unfold callParts? at h
  simp only at h
  split at h
  · simp at h
  · split at h
    · exact (Prod.mk.inj (Option.some.inj h)).1.symm
    · simp at h

/-- Every letter of a call's name is one of a function's name. -/
theorem ofCall?_eq_none_of_mem
    {name : String} {arguments : List Char} {c : Char}
    (hparts : callParts? s = some (name, arguments))
    (hc : c ∈ s.takeWhile (· != '('))
    (hblank : Text.isBlank c = false)
    (hnames : ∀ name ∈ functionNames, nameLetter c ∉ name.toList) :
    Shape.ofCall? name arguments = none := by
  by_contra hcall
  obtain ⟨shape, hshape⟩ := Option.ne_none_iff_exists'.1 hcall
  refine hnames name (mem_functionNames_of_ofCall? hshape) ?_
  rw [eq_name_of_callParts? hparts, String.toList_ofList]
  exact List.mem_map.2 ⟨c, (Text.mem_trim_iff hblank).2 hc, rfl⟩

/-- What names no function is no call. -/
theorem NamesNoFunction.ofCall?_eq_none
    (h : NamesNoFunction s)
    {name : String} {arguments : List Char}
    (hparts : callParts? s = some (name, arguments)) :
    Shape.ofCall? name arguments = none := by
  cases h with
  | @opening front rest hfront =>
      have hfirst : (front ++ '(' :: rest).takeWhile (· != '(') = front := by
        rw [List.takeWhile_append_of_pos, List.takeWhile_cons_of_neg (by simp), List.append_nil]
        intro c hc
        have := hfront c hc
        have hopen : Text.isBlank '(' = false := by decide
        simp only [bne_iff_ne, ne_eq]
        rintro rfl
        simp [hopen] at this
      have hempty : Text.trim front = [] := by
        have hleft : Text.trimLeft front = [] := List.dropWhile_eq_nil_iff.2 hfront
        rw [Text.trim, hleft, Text.trimRight_nil]
      have hname : name = "" := by
        rw [eq_name_of_callParts? hparts, hfirst, hempty]
        rfl
      by_contra hcall
      obtain ⟨shape, hshape⟩ := Option.ne_none_iff_exists'.1 hcall
      exact (not_isMark_of_mem_functionNames name (mem_functionNames_of_ofCall? hshape)).1 hname
  | @mark front rest c hfront hmark =>
      have hopen : c ≠ '(' := by
        rintro rfl
        revert hmark
        decide
      have hblank : Text.isBlank c = false := by
        rcases hmark with hdigit | rfl | rfl | rfl
        · exact Text.not_isBlank_of_isDigit hdigit
        all_goals decide
      have hmem : c ∈ (front ++ c :: rest).takeWhile (· != '(') := by
        rw [List.takeWhile_append_of_pos fun d hd => by
          simp only [bne_iff_ne, ne_eq]
          rintro rfl
          exact hfront hd]
        simp [hopen]
      refine ofCall?_eq_none_of_mem hparts hmem hblank fun name hname hletter => ?_
      rw [nameLetter_of_isMark hmark] at hletter
      exact (not_isMark_of_mem_functionNames name hname).2 c hletter hmark

theorem trim_cons_space
    {c : Char}
    (hspace : IsSpace c)
    (s : List Char) :
    Text.trim (c :: s) = Text.trim s :=
  Text.trim_isBlank_append (List.forall_mem_singleton.2 (isBlank_of_isSpace hspace)) s

theorem trim_append_space
    {c : Char}
    (hspace : IsSpace c)
    (s : List Char) :
    Text.trim (s ++ [c]) = Text.trim s :=
  Text.trim_append_of_isBlank (List.forall_mem_singleton.2 (isBlank_of_isSpace hspace)) s

/-- A written expression that is a single label is the cell of that label. -/
theorem IsWritten.eq_cell
    {letters digits : List Char}
    (h : IsWritten IsLabelOf binding t s)
    (hlabel : Reference.splitLabel? (Text.trim s) = some (letters, digits)) :
    ∃ r, t = .cell r ∧ Reference.ofParts? letters digits = .ok (some r) := by
  have hmark : ∀ {c : Char}, c ∈ ['+', '-', '*', '('] → c ∈ s → False := by
    intro c hc hmem
    obtain ⟨hblank, hletter, hdigit⟩ : Text.isBlank c = false
        ∧ Reference.isLabelLetter c = false ∧ c.isDigit = false := by
      simp only [List.mem_cons, List.not_mem_nil, or_false] at hc
      rcases hc with rfl | rfl | rfl | rfl <;> decide
    rw [Reference.splitLabel?_eq_none_of_mem hmem hblank hletter hdigit] at hlabel
    simp at hlabel
  induction h with
  | @literal word hne hdigits =>
      have htrim : Text.trim word = word :=
        Text.trim_of_ends
          (fun c hc => Text.not_isBlank_of_isDigit (hdigits c (List.mem_of_head? hc)))
          (fun c hc => Text.not_isBlank_of_isDigit (hdigits c (List.mem_of_getLast? hc)))
      obtain ⟨c, rest, rfl⟩ := List.exists_cons_of_ne_nil hne
      rw [htrim] at hlabel
      exact absurd (Reference.head_of_splitLabel? hlabel rfl)
        (Reference.not_isLabelLetter_of_isDigit (hdigits c (by simp)))
  | @cell r word hname =>
      have hlast := hname.getLast?_not_blank
      obtain ⟨letters', digits', rfl, hparts⟩ := hname.exists_parts
      have htrim : Text.trim (letters' ++ digits') = letters' ++ digits' := by
        refine Text.trim_of_ends (fun c hc => ?_) hlast
        rw [List.head?_append_of_ne_nil _ hparts.letters_ne_nil] at hc
        exact Reference.not_isBlank_of_isLabelLetter (hparts.isLabelLetter c (List.mem_of_head? hc))
      rw [htrim, Reference.splitLabel?_append hparts.letters_ne_nil hparts.digits_ne_nil
        hparts.isLabelLetter hparts.isDigit] at hlabel
      obtain ⟨rfl, rfl⟩ := Prod.mk.inj (Option.some.inj hlabel)
      exact ⟨r, rfl, hparts.reads⟩
  | signed sign _ _ => exact (hmark (by cases sign <;> decide) List.mem_cons_self).elim
  | parentheses _ _ => exact (hmark (by decide) List.mem_cons_self).elim
  | product _ _ _ _ => exact (hmark (c := '*') (by decide) (by simp)).elim
  | sum sign _ _ _ _ =>
      exact (hmark (c := sign.char) (by cases sign <;> decide) (by simp)).elim
  | ofOperand _ ih => exact ih hlabel hmark
  | ofProduct _ ih => exact ih hlabel hmark
  | spaceBefore hspace _ ih =>
      rw [trim_cons_space hspace] at hlabel
      exact ih hlabel fun hc hmem => hmark hc (List.mem_cons_of_mem _ hmem)
  | spaceAfter hspace _ ih =>
      rw [trim_append_space hspace] at hlabel
      exact ih hlabel fun hc hmem => hmark hc (List.mem_append_left _ hmem)

/-- Written arithmetic is taken for arithmetic, or for the single cell that it
is. -/
theorem IsWritten.ofBody_cases
    (h : IsWritten IsLabelOf binding t s) :
    Shape.ofBody s = .arithmetic s
      ∨ ∃ letters digits r, Shape.ofBody s = .reference letters digits ∧ t = .cell r
        ∧ Reference.ofParts? letters digits = .ok (some r) := by
  unfold Shape.ofBody
  split
  · next shape hshape =>
      obtain ⟨parts, hparts, hshape⟩ := Option.bind_eq_some_iff.1 hshape
      cases (h.namesNoFunction.ofCall?_eq_none hparts).symm.trans hshape
  · cases hlabel : Reference.splitLabel? (Text.trim s) with
    | none => exact .inl rfl
    | some parts =>
        obtain ⟨r, ht, hreads⟩ := h.eq_cell hlabel
        exact .inr ⟨parts.1, parts.2, r, rfl, ht, hreads⟩

end Shapes

end Formula
end Spreadsheet
