import Spreadsheet.Proofs.Formula.Context
import Spreadsheet.Proofs.Formula.Parsing

/-!
# Arithmetic over cells

Evaluation puts the numbers of cells in the place of their labels and reads the
text that comes of it.  A label ends where a character follows that is no digit,
so the text of an expression is cut into the pieces of its parts, whatever
follows it; with every label replaced by its integer between parentheses, the
text still writes the same expression.

Results: the labels of a written expression can be replaced by the integers in
their cells (`exists_isCut`), and the value of a written expression is the
integer that it stands for (`evaluate_of_isWritten`).
-/

namespace Spreadsheet

namespace Number

theorem toInt?_of_equal
    {x : Binary64} {i : Int}
    (hx : (Number.float x).equal (.int i) = true) :
    x.toInt? = some i := by
  cases x with
  | nan => simp [equal, order?, place?, Binary64.place?] at hx
  | infinite negative =>
      cases negative <;> simp [equal, order?, place?, Binary64.place?, Place.compare] at hx
  | finite negative units fits =>
      have hpos := Binary64.unitsPerOne_pos
      have hunits : Binary64.signedUnits negative units = i * (Binary64.unitsPerOne : Int) := by
        simpa [equal, order?, place?, Binary64.place?, Place.compare] using hx
      have hmagnitude : units = i.natAbs * Binary64.unitsPerOne := by
        have habs := congrArg Int.natAbs hunits
        rw [Int.natAbs_mul, Int.natAbs_natCast] at habs
        rw [← habs]
        cases negative <;> simp [Binary64.signedUnits]
      have hsigned : Binary64.signedUnits negative i.natAbs = i := by
        refine Int.eq_of_mul_eq_mul_right (a := (Binary64.unitsPerOne : Int)) (by omega) ?_
        rw [← hunits, hmagnitude]
        cases negative <;> simp [Binary64.signedUnits]
      have hwhole : units % Binary64.unitsPerOne = 0 := by
        rw [hmagnitude, Nat.mul_mod_left]
      have hquotient : units / Binary64.unitsPerOne = i.natAbs := by
        rw [hmagnitude, Nat.mul_div_cancel _ hpos]
      rw [Binary64.toInt?, if_pos hwhole, hquotient, hsigned]

theorem eq_of_equal_int
    {i j : Int}
    (h : (Number.int j).equal (.int i) = true) :
    j = i := by
  have hpos := Binary64.unitsPerOne_pos
  have hunits : j * (Binary64.unitsPerOne : Int) = i * (Binary64.unitsPerOne : Int) := by
    simpa [equal, order?, place?, Place.compare] using h
  exact Int.eq_of_mul_eq_mul_right (by omega) hunits

/-- A number that equals an integer is written plainly as that integer. -/
theorem plain_of_equal
    {x : Number} {i : Int}
    (hx : x.equal (.int i) = true)
    (hi : IsWritable i) :
    x.plain = .ok i.repr := by
  cases x with
  | int j =>
      obtain rfl := eq_of_equal_int hx
      rw [plain, integerText, if_pos hi]
  | float x => exact plain_whole (toInt?_of_equal hx)

end Number

namespace Formula

/-- What stands for a piece of arithmetic when the cells hold integers. -/
def inserted (cells : Reference → Int) : Segment → List Char
  | .verbatim text => text
  | .label letters digits =>
      match Reference.ofParts? letters digits with
      | .ok (some r) => '(' :: (cells r).repr.toList ++ [')']
      | _ => ['0']

/-- The piece is no label, or the label of one of the cells. -/
inductive IsPiece (references : List Reference) : Segment → Prop
  | verbatim
      (text : List Char) :
      IsPiece references (.verbatim text)
  | label
      {letters digits : List Char} {r : Reference}
      (hr : r ∈ references)
      (hreads : Reference.ofParts? letters digits = .ok (some r)) :
      IsPiece references (.label letters digits)

theorem IsPiece.mono
    {references references' : List Reference} {piece : Segment}
    (hle : references ⊆ references')
    (h : IsPiece references piece) :
    IsPiece references' piece := by
  cases h with
  | verbatim text => exact .verbatim text
  | label hr hreads => exact .label (hle hr) hreads

theorem forall_isPiece_append
    {references references' : List Reference} {pieces pieces' : List Segment} {text : List Char}
    (h : ∀ piece ∈ pieces, IsPiece references piece)
    (h' : ∀ piece ∈ pieces', IsPiece references' piece) :
    ∀ piece ∈ pieces ++ .verbatim text :: pieces', IsPiece (references ++ references') piece := by
  refine List.forall_mem_append.2 ⟨fun piece hp => (h piece hp).mono ?_,
    List.forall_mem_cons.2 ⟨.verbatim text, fun piece hp => (h' piece hp).mono ?_⟩⟩
  · exact List.subset_append_left _ _
  · exact List.subset_append_right _ _

/-- The text is cut into these pieces whatever follows it that is no digit. -/
def IsCut (s : List Char) (pieces : List Segment) : Prop :=
  ∀ rest, Json.EndsDigits rest → segments (s ++ rest) = pieces ++ segments rest

section Cuts

variable {s s' : List Char} {pieces pieces' : List Segment} {c : Char}

theorem segments_cons
    (hc : Reference.isLabelLetter c = false)
    (s : List Char) :
    segments (c :: s) = .verbatim [c] :: segments s := by
  rw [segments]
  simp [hc]

theorem isCut_nil :
    IsCut [] [] :=
  fun _ _ => rfl

theorem IsCut.cons
    (hc : Reference.isLabelLetter c = false)
    (h : IsCut s pieces) :
    IsCut (c :: s) (.verbatim [c] :: pieces) := by
  intro rest hrest
  rw [List.cons_append, segments_cons hc, h rest hrest, List.cons_append]

/-- A character that is neither letter nor digit parts two texts. -/
theorem IsCut.append_cons
    (hc : Reference.isLabelLetter c = false ∧ c.isDigit = false)
    (h : IsCut s pieces)
    (h' : IsCut s' pieces') :
    IsCut (s ++ c :: s') (pieces ++ .verbatim [c] :: pieces') := by
  intro rest hrest
  have htail := h'.cons hc.1 rest hrest
  rw [List.cons_append] at htail
  rw [List.append_assoc, List.cons_append, h _ (Json.endsDigits_cons hc.2 _), htail,
    List.append_assoc]

theorem isCut_digits
    {digits : List Char}
    (hdigits : ∀ c ∈ digits, c.isDigit = true) :
    IsCut digits (digits.map fun c => .verbatim [c]) := by
  induction digits with
  | nil => exact isCut_nil
  | cons c digits ih =>
      have hc : Reference.isLabelLetter c = false := by
        simpa using Reference.not_isLabelLetter_of_isDigit (hdigits c (by simp))
      exact (ih fun d hd => hdigits d (List.mem_cons_of_mem _ hd)).cons hc

theorem isCut_label
    {r : Reference} {letters digits : List Char}
    (h : IsNamedBy r letters digits) :
    IsCut (letters ++ digits) [.label letters digits] := by
  intro rest hrest
  obtain ⟨c, others, hletters⟩ := List.exists_cons_of_ne_nil h.letters_ne_nil
  have hstop : (digits ++ rest).takeWhile Reference.isLabelLetter = []
      ∧ (digits ++ rest).dropWhile Reference.isLabelLetter = digits ++ rest := by
    obtain ⟨d, more, hdigits⟩ := List.exists_cons_of_ne_nil h.digits_ne_nil
    have hd : ¬ Reference.isLabelLetter d = true :=
      Reference.not_isLabelLetter_of_isDigit (h.isDigit d (by simp [hdigits]))
    simp [hdigits, hd]
  have htake : (letters ++ (digits ++ rest)).takeWhile Reference.isLabelLetter = letters := by
    rw [List.takeWhile_append_of_pos h.isLabelLetter, hstop.1, List.append_nil]
  have hdrop : (letters ++ (digits ++ rest)).dropWhile Reference.isLabelLetter
      = digits ++ rest := by
    rw [List.dropWhile_append_of_pos h.isLabelLetter, hstop.2]
  have hdigits : digits.isEmpty = false := by simpa using h.digits_ne_nil
  rw [List.append_assoc]
  rw [hletters] at htake hdrop ⊢
  rw [List.cons_append] at htake hdrop ⊢
  rw [segments]
  simp [htake, hdrop, Json.takeWhile_digits h.isDigit hrest, Json.dropWhile_digits h.isDigit hrest,
    h.digits_ne_nil]

end Cuts

section Insertion

variable {binding : Binding} {t : Term} {s : List Char}

/-- A written expression is cut into the labels of its cells and what stands
between them, and it is written again when integers stand for the labels. -/
theorem exists_isCut
    (cells : Reference → Int)
    (h : IsWritten IsLabelOf binding t s) :
    ∃ pieces, IsCut s pieces ∧ (∀ piece ∈ pieces, IsPiece t.references piece)
      ∧ IsWritten (IsInsertion cells) binding t (pieces.flatMap (inserted cells)) := by
  have hsign : ∀ sign : Sign,
      Reference.isLabelLetter sign.char = false ∧ sign.char.isDigit = false := by
    intro sign
    cases sign <;> decide
  have hspace : ∀ {c : Char}, IsSpace c →
      Reference.isLabelLetter c = false ∧ c.isDigit = false := by
    rintro c (rfl | rfl) <;> decide
  induction h with
  | @literal digits hne hdigits =>
      refine ⟨digits.map fun c => .verbatim [c], isCut_digits hdigits, ?_, ?_⟩
      · intro piece hpiece
        obtain ⟨c, -, rfl⟩ := List.mem_map.1 hpiece
        exact .verbatim [c]
      · rw [List.flatMap_map]
        simpa [inserted] using IsWritten.literal hne hdigits
  | @cell r s hname =>
      obtain ⟨letters, digits, rfl, hparts⟩ := hname.exists_parts
      refine ⟨[.label letters digits], isCut_label hparts, ?_, ?_⟩
      · simpa using IsPiece.label (by simp [Term.references]) hparts.reads
      · exact .cell (by simp [inserted, hparts.reads, IsInsertion])
  | signed sign _ ih =>
      obtain ⟨pieces, hcut, hpieces, hwritten⟩ := ih
      refine ⟨.verbatim [sign.char] :: pieces, hcut.cons (hsign sign).1,
        List.forall_mem_cons.2 ⟨.verbatim _, hpieces⟩, ?_⟩
      exact .signed sign hwritten
  | parentheses _ ih =>
      obtain ⟨pieces, hcut, hpieces, hwritten⟩ := ih
      refine ⟨.verbatim ['('] :: (pieces ++ .verbatim [')'] :: []),
        (hcut.append_cons (by decide) isCut_nil).cons (by decide),
        List.forall_mem_cons.2 ⟨.verbatim _, List.forall_mem_append.2 ⟨hpieces,
          List.forall_mem_singleton.2 (.verbatim _)⟩⟩, ?_⟩
      simpa [inserted] using hwritten.parentheses
  | product _ _ ih ih' =>
      obtain ⟨pieces, hcut, hpieces, hwritten⟩ := ih
      obtain ⟨pieces', hcut', hpieces', hwritten'⟩ := ih'
      refine ⟨pieces ++ .verbatim ['*'] :: pieces', hcut.append_cons (by decide) hcut', ?_, ?_⟩
      · exact forall_isPiece_append hpieces hpieces'
      · simpa [inserted] using hwritten.product hwritten'
  | sum sign _ _ ih ih' =>
      obtain ⟨pieces, hcut, hpieces, hwritten⟩ := ih
      obtain ⟨pieces', hcut', hpieces', hwritten'⟩ := ih'
      refine ⟨pieces ++ .verbatim [sign.char] :: pieces', hcut.append_cons (hsign sign) hcut',
        ?_, ?_⟩
      · exact forall_isPiece_append hpieces hpieces'
      · simpa [inserted] using hwritten.sum sign hwritten'
  | ofOperand _ ih =>
      obtain ⟨pieces, hcut, hpieces, hwritten⟩ := ih
      exact ⟨pieces, hcut, hpieces, .ofOperand hwritten⟩
  | ofProduct _ ih =>
      obtain ⟨pieces, hcut, hpieces, hwritten⟩ := ih
      exact ⟨pieces, hcut, hpieces, .ofProduct hwritten⟩
  | spaceBefore hc _ ih =>
      obtain ⟨pieces, hcut, hpieces, hwritten⟩ := ih
      exact ⟨.verbatim [_] :: pieces, hcut.cons (hspace hc).1,
        List.forall_mem_cons.2 ⟨.verbatim _, hpieces⟩, .spaceBefore hc hwritten⟩
  | spaceAfter hc _ ih =>
      obtain ⟨pieces, hcut, hpieces, hwritten⟩ := ih
      refine ⟨pieces ++ .verbatim [_] :: [], hcut.append_cons (hspace hc) isCut_nil,
        List.forall_mem_append.2 ⟨hpieces, List.forall_mem_singleton.2 (.verbatim _)⟩, ?_⟩
      simpa [inserted] using hwritten.spaceAfter hc

end Insertion

/-- The value of a cell stands for an integer; no value stands for zero. -/
inductive IsIntegral : Option Scalar → Int → Prop
  | nothing : IsIntegral none 0
  | number
      {x : Number} {i : Int}
      (hx : x.equal (.int i) = true) :
      IsIntegral (some (.number x)) i

section Values

theorem IsIntegral.coerceValue
    {value : Option Scalar} {i : Int}
    (h : IsIntegral value i) :
    ∃ x : Number, Spreadsheet.coerceValue value = .ok x ∧ x.equal (.int i) = true := by
  cases h with
  | nothing => exact ⟨.int 0, rfl, Number.equal_self (by simp)⟩
  | number hx => exact ⟨_, rfl, hx⟩

theorem IsIntegral.getD
    {value : Option Scalar} {i : Int}
    (h : IsIntegral value i) :
    ∃ x : Number, value.getD (.number (.int 0)) = .number x ∧ x.equal (.int i) = true := by
  cases h with
  | nothing => exact ⟨.int 0, rfl, Number.equal_self (by simp)⟩
  | number hx => exact ⟨_, rfl, hx⟩

variable {m : Type → Type} [Monad m] [MonadExcept Fault m] [LawfulMonad m]
  {env : Environment m} {cells : Reference → Int} {t : Term} {s : List Char}

/-- Every cell of the expression reads as the integer that stands for it. -/
def ReadsIntegers (env : Environment m) (cells : Reference → Int) (t : Term) : Prop :=
  ∀ r ∈ t.references, ∃ value, env.value r = pure value ∧ IsIntegral value (cells r)
    ∧ IsWritable (cells r)

theorem substitute_of_isPiece
    {piece : Segment}
    (hcells : ReadsIntegers env cells t)
    (h : IsPiece t.references piece) :
    env.substitute piece = pure (inserted cells piece) := by
  cases h with
  | verbatim text => rfl
  | @label letters digits r hr hreads =>
      obtain ⟨value, hvalue, hintegral, hwritable⟩ := hcells r hr
      obtain ⟨x, hx, hequal⟩ := hintegral.coerceValue
      have hnumeric : env.numeric r = pure x := by
        rw [Environment.numeric, hvalue, pure_bind, hx]
        rfl
      have hplain := Number.plain_of_equal hequal hwritable
      rw [Environment.substitute, inserted, hreads, ofExcept, pure_bind]
      simp only [hnumeric, pure_bind, hplain, ofExcept]

/-- Arithmetic computes the integer that its expression stands for. -/
theorem arithmetic_of_isWritten
    (h : IsWritten IsLabelOf .sum t s)
    (hliterals : ∀ digits ∈ t.literals, digits.length ≤ digitLimit)
    (hcells : ReadsIntegers env cells t) :
    env.arithmetic s = pure (.int (t.value cells)) := by
  obtain ⟨pieces, hcut, hpieces, hwritten⟩ := exists_isCut cells h
  have hsegments : segments s = pieces := by
    have hends : Json.EndsDigits [] := fun c r hr => absurd hr (by simp)
    have hall := hcut [] hends
    rwa [List.append_nil, segments, List.append_nil] at hall
  have hinserted : (segments s).mapM env.substitute = pure (pieces.map (inserted cells)) := by
    rw [hsegments]
    exact mapM_eq_pure fun piece hpiece => substitute_of_isPiece hcells (hpieces piece hpiece)
  have hparse := parse_of_isWritten hwritten
  rw [List.flatMap_def] at hparse
  have hwritable : ∀ r ∈ t.references, IsWritable (cells r) := by
    intro r hr
    obtain ⟨_, -, -, hwritable⟩ := hcells r hr
    exact hwritable
  have hvalue := Expression.value_of_integerValue
    (integerValue?_expression hwritten hliterals hwritable)
  rw [Environment.arithmetic, hinserted, pure_bind, hparse, Except.mapError, ofExcept, pure_bind,
    hvalue, ofExcept, pure_bind]
  simp [Number.isFinite]

/-- A single label stands for the value of its cell, arithmetic for a computed
integer. -/
theorem evaluateText_of_isWritten
    (h : IsWritten IsLabelOf .sum t s)
    (hliterals : ∀ digits ∈ t.literals, digits.length ≤ digitLimit)
    (hcells : ReadsIntegers env cells t) :
    ∃ x : Number, evaluateText env ('=' :: s) = pure (some (.number x))
      ∧ x.equal (.int (t.value cells)) = true := by
  have hequals : Text.isBlank '=' = false := by decide
  have htrim : Text.trim ('=' :: s) = '=' :: Text.trimRight s := by
    rw [Text.trim, Text.trimLeft_cons, hequals]
    simp [trimRight_cons hequals]
  rw [evaluateText_eq, htrim, Shape.ofText?]
  rcases h.trimRight.ofBody_cases with hshape | ⟨letters, digits, r, hshape, rfl, hreads⟩
  · rw [hshape]
    refine ⟨.int (t.value cells), ?_, Number.equal_self (by simp)⟩
    rw [Environment.valueOf, arithmetic_of_isWritten h.trimRight hliterals hcells, pure_bind]
  · rw [hshape]
    obtain ⟨value, hvalue, hintegral, -⟩ := hcells r (by simp [Term.references])
    have hsingle : env.single letters digits
        = pure (some (value.getD (.number (.int 0)))) := by
      rw [Environment.single, hreads, ofExcept, pure_bind]
      simp only [hvalue, pure_bind]
    obtain ⟨x, hx, hequal⟩ := hintegral.getD
    exact ⟨x, by rw [Environment.valueOf, hsingle, hx], hequal⟩

end Values

section Grids

variable {g : Grid} {today : Date} {cells : Reference → Int} {t : Term} {s : List Char}

namespace Source

variable {src : Source}

/-- A cell that is read in a context of its own has that value within some
bound. -/
theorem exists_recompute_eq
    (hformulas : ∀ r, src.IsFormula r → r ∈ src.formulas)
    {r : Reference} {value : Option Scalar}
    (h : (src.answer today (.cell r) []).1 = .ok value) :
    ∃ bound, src.recompute today bound r = some (.ok value) := by
  have hmemo : src.Sound today [] := by
    intro r value h
    simp at h
  have hsettles : src.Settles today (src.recomputeAnswer today (.cell r))
      (src.answer today (.cell r) []).1 := by
    cases src.answers_settle_from hformulas [.cell r] hmemo with
    | cons h _ => exact h
  by_cases hnever : ∀ bound, src.recomputeAnswer today (.cell r) bound = none
  · obtain ⟨_, _, -, -, -, hfault⟩ := hsettles.cycles hnever
    rw [hfault] at h
    cases h
  · obtain ⟨bound, hbound⟩ := not_forall.1 hnever
    obtain ⟨outcome, houtcome⟩ := Option.ne_none_iff_exists'.1 hbound
    have hvalue := hsettles.finishes bound outcome houtcome
    rw [h] at hvalue
    rw [← hvalue] at houtcome
    exact ⟨bound, houtcome⟩

/-- One bound is enough for some cells together. -/
theorem exists_bound
    (hformulas : ∀ r, src.IsFormula r → r ∈ src.formulas)
    {references : List Reference}
    (h : ∀ r ∈ references, ∃ value, (src.answer today (.cell r) []).1 = .ok value
      ∧ IsIntegral value (cells r) ∧ IsWritable (cells r)) :
    ∃ bound, ∀ r ∈ references, ∃ value, src.recompute today bound r = some (.ok value)
      ∧ IsIntegral value (cells r) ∧ IsWritable (cells r) := by
  induction references with
  | nil => exact ⟨0, by simp⟩
  | cons r references ih =>
      obtain ⟨hr, hothers⟩ := List.forall_mem_cons.1 h
      obtain ⟨value, hvalue, hinteger⟩ := hr
      obtain ⟨first, hfirst⟩ := exists_recompute_eq hformulas hvalue
      obtain ⟨second, hsecond⟩ := ih hothers
      refine ⟨max first second, List.forall_mem_cons.2 ⟨⟨value, ?_, hinteger⟩, ?_⟩⟩
      · exact recompute_extension (Nat.le_max_left _ _) r _ hfirst
      · intro r' hr'
        obtain ⟨value', hvalue', hinteger'⟩ := hsecond r' hr'
        exact ⟨value', recompute_extension (Nat.le_max_right _ _) r' _ hvalue', hinteger'⟩

end Source

/-- The value of a written expression is the integer that it stands for, if
every cell in it reads as an integer or is empty, which counts as zero, and no
literal and none of these integers is too long to be written. -/
theorem evaluate_of_isWritten
    (h : IsWritten IsLabelOf .sum t s)
    (hliterals : ∀ digits ∈ t.literals, digits.length ≤ digitLimit)
    (hcells : ∀ r ∈ t.references, ∃ value, (g.source.answer today (.cell r) []).1 = .ok value
      ∧ IsIntegral value (cells r) ∧ IsWritable (cells r)) :
    ∃ x : Number, g.source.evaluate today ("=" ++ String.ofList s) = some (.number x)
      ∧ x.equal (.int (t.value cells)) = true := by
  have hformulas : ∀ r, g.source.IsFormula r → r ∈ g.source.formulas :=
    fun r hr => Grid.mem_formulas hr
  obtain ⟨bound, hbound⟩ := Source.exists_bound hformulas hcells
  have hreads : ReadsIntegers (g.source.environment today (g.source.recompute today bound))
      cells t := hbound
  obtain ⟨x, hx, hequal⟩ := evaluateText_of_isWritten h hliterals hreads
  have htext : ("=" ++ String.ofList s).toList = '=' :: s := by simp
  have hfinishes : g.source.recomputeText today bound ("=" ++ String.ofList s).toList
      = some (.ok (some (.number x))) := by
    rw [htext]
    exact hx
  exact ⟨x, Source.evaluate_of_finishes hformulas hfinishes, hequal⟩

/-- A negative integer, and a formula with a negative value; the other positions
are empty. -/
def signedCells : Grid where
  minColumns := .int 4
  rows := [[some (.plain (.number (.int (-3))) .number none),
    some (.formula "=2-7" (by decide) none)]]
  history := .empty History.defaultLimit

/-- Ten less the product of the first cell and the opposite of a sum. -/
def differenceTerm : Term :=
  .sum .minus (.literal ['1', '0'])
    (.product (.cell ⟨0, 0⟩) (.signed .minus (.sum .plus (.cell ⟨1, 0⟩) (.cell ⟨2, 8⟩))))

/-- The text of the expression, with spaces and with labels of either case. -/
def differenceText : List Char :=
  [' ', '1', '0', '-', 'a', '1', ' ', '*', '-', '(', 'B', '1', '+', 'c', '9', ')', '\t']

/-- The integers in its cells. -/
def differenceCells (r : Reference) : Int :=
  if r = ⟨0, 0⟩ then -3 else if r = ⟨1, 0⟩ then -5 else 0

theorem isWritten_differenceTerm :
    IsWritten IsLabelOf .sum differenceTerm differenceText := by
  have hten : IsWritten IsLabelOf .operand (.literal ['1', '0']) ['1', '0'] :=
    .literal (by decide) (by simp [Char.isDigit])
  have hfirst : IsWritten IsLabelOf .operand (.cell ⟨0, 0⟩) ['a', '1'] :=
    .cell ⟨"A1", by decide +kernel, by decide⟩
  have hsecond : IsWritten IsLabelOf .operand (.cell ⟨1, 0⟩) ['B', '1'] :=
    .cell ⟨"B1", by decide +kernel, by decide⟩
  have hthird : IsWritten IsLabelOf .operand (.cell ⟨2, 8⟩) ['c', '9'] :=
    .cell ⟨"C9", by decide +kernel, by decide⟩
  have hopposite := ((hsecond.ofOperand.ofProduct.sum .plus hthird.ofOperand).parentheses).signed
    .minus
  have hproduct := (hfirst.ofOperand.spaceAfter (.inl rfl)).product hopposite
  exact .spaceBefore (.inl rfl)
    (hten.ofOperand.ofProduct.sum .minus (hproduct.spaceAfter (.inr rfl)))

theorem readsIntegers_signedCells :
    ∀ r ∈ differenceTerm.references, ∃ value,
      (signedCells.source.answer ⟨2024, 3, 9, by decide⟩ (.cell r) []).1 = .ok value
        ∧ IsIntegral value (differenceCells r) ∧ IsWritable (differenceCells r) := by
  have hequal : ∀ i : Int, (Number.int i).equal (.int i) = true :=
    fun i => Number.equal_self (by simp)
  have hwritable : ∀ i : Int, i.natAbs < 10 ^ 1 → IsWritable i := by
    intro i hi
    have hlimit : 1 ≤ digitLimit := by decide
    unfold IsWritable
    -- The power is kept from being computed.
    generalize digitLimit = limit at hlimit ⊢
    exact Nat.lt_of_lt_of_le hi (Nat.pow_le_pow_right (by decide) hlimit)
  intro r hr
  have hr : r = ⟨0, 0⟩ ∨ r = ⟨1, 0⟩ ∨ r = ⟨2, 8⟩ := by
    simpa [differenceTerm, Term.references] using hr
  rcases hr with rfl | rfl | rfl
  · exact ⟨some (.number (.int (-3))), by decide +kernel, .number (hequal _),
      hwritable _ (by decide)⟩
  · exact ⟨some (.number (.int (-5))), by decide +kernel, .number (hequal _),
      hwritable _ (by decide)⟩
  · exact ⟨none, by decide +kernel, .nothing, hwritable _ (by decide)⟩

/-- Products and signs bind tighter than sums, and the last cell is empty. -/
theorem evaluate_of_isWritten_signedCells :
    ∃ x : Number,
      signedCells.source.evaluate ⟨2024, 3, 9, by decide⟩ "= 10-a1 *-(B1+c9)\t"
          = some (.number x)
        ∧ x.equal (.int 25) = true := by
  obtain ⟨x, hx, hequal⟩ :=
    evaluate_of_isWritten isWritten_differenceTerm (by decide) readsIntegers_signedCells
  have hvalue : differenceTerm.value differenceCells = 25 := by decide
  rw [hvalue] at hequal
  exact ⟨x, hx, hequal⟩

end Grids

end Formula
end Spreadsheet
