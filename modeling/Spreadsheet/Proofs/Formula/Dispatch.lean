import Spreadsheet.Formula.Source
import Spreadsheet.Proofs.Formula.Calls
import Spreadsheet.Proofs.Formula.Entries
import Spreadsheet.Proofs.Formula.Simulation

/-!
# Dispatch by the entries

The shape of a formula is read off its parts: the name in front of the first parenthesis, or
the letters and digits of a label.  A text that an entry takes has just the parts that its
pattern names, so an entry that matches finds the shape that is read off.  As that shape
belongs to one entry alone, it does not matter in which order the entries are tried.

A formula is evaluated by the first entry that takes it, and so are the formulas inside it
and those in the cells that it refers to.

Results: an entry finds the shape of a text exactly if that shape belongs to it (`shape?_eq`),
no two entries match one formula (`Entry.eq_of_matches`), every complete order of them finds
the shape (`ofTextBy?_eq_ofText?`), and so the value of a formula is the same in every order
(`evaluateBy_eq_evaluateText`, `dispatchBy_of_perm`).
-/

namespace Spreadsheet
namespace Formula

open Text (Pattern)

section Names

/-- A function of a range is known by its names. -/
theorem ofName?_eq_some_iff
    {name : String} {f : Aggregate} :
    Aggregate.ofName? name = some f ↔ name ∈ (Callee.aggregate f).names := by
  constructor
  · intro h
    unfold Aggregate.ofName? at h
    split at h <;> cases h <;> simp [Callee.names]
  · intro h
    cases f <;> simp only [Callee.names, List.mem_cons, List.not_mem_nil, or_false] at h
    case average => rcases h with rfl | rfl <;> rfl
    all_goals subst h; rfl

/-- What a call means is decided by the function of its name and by what this takes. -/
theorem ofCall?_eq_some_iff
    {name : String} {arguments : List Char} {shape : Shape} :
    Shape.ofCall? name arguments = some shape
      ↔ ∃ f : Callee, name ∈ f.names ∧ ∃ kept, f.arguments.Takes arguments kept
        ∧ f.shape kept = shape := by
  constructor
  · intro h
    unfold Shape.ofCall? at h
    split at h
    · next f hf =>
        split at h
        · cases h
        · next hargs =>
            simp only [Bool.or_eq_true, List.isEmpty_iff, List.contains_iff_mem, not_or] at hargs
            exact ⟨.aggregate f, ofName?_eq_some_iff.1 hf, arguments,
              takes_range_iff.2 ⟨hargs.1, hargs.2, rfl⟩, Option.some.inj h⟩
    · split at h
      · next hname =>
          split at h
          · next hblank =>
              refine ⟨.today, by simp [Callee.names, hname], [], ?_, Option.some.inj h⟩
              exact ⟨List.all_eq_true.1 hblank, rfl⟩
          · cases h
      · split at h
        · next hname =>
            exact ⟨.condition, by simp [Callee.names, hname], arguments, takes_any_iff.2 rfl,
              Option.some.inj h⟩
        · split at h
          · next hname =>
              exact ⟨.join, by simpa [Callee.names] using hname, arguments, takes_any_iff.2 rfl,
                Option.some.inj h⟩
          · cases h
  · rintro ⟨f, hname, kept, hargs, rfl⟩
    cases f with
    | today =>
        obtain ⟨hblank, rfl⟩ := hargs
        obtain rfl := List.mem_singleton.1 hname
        simpa [Shape.ofCall?, Aggregate.ofName?, Callee.shape] using hblank
    | aggregate f =>
        obtain ⟨hne, hclose, rfl⟩ := takes_range_iff.1 hargs
        simp [Shape.ofCall?, ofName?_eq_some_iff.2 hname, hne, hclose, Callee.shape]
    | condition =>
        obtain rfl := takes_any_iff.1 hargs
        obtain rfl := List.mem_singleton.1 hname
        rfl
    | join =>
        obtain rfl := takes_any_iff.1 hargs
        simp only [Callee.names, List.mem_cons, List.not_mem_nil, or_false] at hname
        rcases hname with rfl | rfl <;> rfl

end Names

section Calls

variable {s k before written after arguments letters digits : List Char} {c : Char}
  {name : String}

theorem not_mem_of_forall
    {p : Char → Bool}
    (hc : p c = false)
    (h : ∀ d ∈ s, p d = true) :
    c ∉ s := by
  intro hmem
  rw [h c hmem] at hc
  cases hc

/-- What stands for a capital letter of a name is no blank and no parenthesis. -/
theorem ne_of_isCapital_nameLetter
    (h : Reference.IsCapital (nameLetter c)) :
    Text.isBlank c = false ∧ c ≠ '(' := by
  have hopen : nameLetter '(' = '(' := by decide
  have hcapital : ¬ Reference.IsCapital '(' := by
    unfold Reference.IsCapital
    decide
  refine ⟨?_, fun heq => hcapital (by rwa [heq, hopen] at h)⟩
  unfold nameLetter at h
  split at h
  · next hc => rcases hc with rfl | rfl <;> decide
  · split at h
    · next hc => exact hc ▸ by decide
    · split at h
      · next hc => exact hc ▸ by decide
      · obtain ⟨hfrom, hto⟩ := h
        rcases Text.toUpper_cases c with hsame | ⟨⟨hlow, hhigh⟩, -⟩
        · rw [hsame] at hfrom hto
          exact Text.isBlank_of_visible (by omega)
        · exact Text.isBlank_of_visible (by omega)

theorem isCapital_of_mem_names
    {f : Callee}
    (hname : name ∈ f.names)
    (hc : c ∈ name.toList) :
    Reference.IsCapital c := by
  have hall : (f.names.all fun name => name.toList.all fun c =>
      65 ≤ c.toNat && c.toNat ≤ 90) = true := by
    cases f with
    | aggregate f => cases f <;> decide
    | _ => decide
  have hname := List.all_eq_true.1 (List.all_eq_true.1 hall name hname) c hc
  simpa [Reference.IsCapital] using hname

/-- The parts of a call: its name without the blanks around it, and its arguments. -/
theorem callParts?_of_names
    {f : Callee}
    (hbefore : ∀ c ∈ before, Text.isBlank c = true)
    (hname : String.ofList (written.map nameLetter) ∈ f.names)
    (hafter : ∀ c ∈ after, Text.isBlank c = true) :
    callParts? (before ++ written ++ after ++ '(' :: (arguments ++ [')']))
      = some (String.ofList (written.map nameLetter), arguments) := by
  have hwritten : ∀ c ∈ written, Text.isBlank c = false ∧ c ≠ '(' := by
    intro c hc
    refine ne_of_isCapital_nameLetter (isCapital_of_mem_names hname ?_)
    rw [String.toList_ofList]
    exact List.mem_map_of_mem hc
  have hfront : '(' ∉ before ++ written ++ after := by
    simp only [List.mem_append, not_or]
    exact ⟨⟨not_mem_of_forall (by decide) hbefore, fun hc => (hwritten _ hc).2 rfl⟩,
      not_mem_of_forall (by decide) hafter⟩
  have htrim : Text.trim (before ++ written ++ after) = written := by
    rw [Text.trim_append_of_isBlank hafter, Text.trim_isBlank_append hbefore]
    exact Text.trim_of_ends (fun c hc => (hwritten c (List.mem_of_head? hc)).1)
      (fun c hc => (hwritten c (List.mem_of_getLast? hc)).1)
  rw [callParts?_call hfront, htrim]

/-- What a call is read from. -/
theorem exists_front_of_callParts?
    (h : callParts? s = some (name, arguments)) :
    ∃ front, s = front ++ '(' :: (arguments ++ [')'])
      ∧ name = String.ofList ((Text.trim front).map nameLetter) := by
  refine ⟨s.takeWhile (· != '('), ?_, eq_name_of_callParts? h⟩
  unfold callParts? at h
  simp only at h
  split at h
  · cases h
  · next c tail htail =>
      split at h
      · next hlast =>
          obtain ⟨-, rfl⟩ := Prod.mk.inj (Option.some.inj h)
          have hopen : c = '(' := by
            have hnot := List.head?_dropWhile_not (· != '(') s
            rw [htail] at hnot
            simpa using hnot
          subst hopen
          rw [List.dropLast_append_getLast? _ hlast, ← htail, List.takeWhile_append_dropWhile]
      · cases h

/-- Without a parenthesis there is no call. -/
theorem callParts?_eq_none
    (h : '(' ∉ s) :
    callParts? s = none := by
  have hdrop : s.dropWhile (· != '(') = [] := by
    rw [List.dropWhile_eq_nil_iff]
    intro c hc
    rw [bne_iff_ne]
    rintro rfl
    exact h hc
  simp [callParts?, hdrop]

theorem shape_reference
    (h : Reference.IsSplit letters digits) :
    Entry.reference.shape (letters ++ digits) = .reference letters digits := by
  have hsplit := Reference.splitLabel?_eq_some_iff.2 ⟨rfl, h⟩
  unfold Reference.splitLabel? at hsplit
  simp only at hsplit
  split at hsplit
  · obtain ⟨hletters, hdigits⟩ := Prod.mk.inj (Option.some.inj hsplit)
    rw [Entry.shape, hletters, hdigits]
  · cases hsplit

/-- A single label is read as its letters and digits. -/
theorem IsSingle.ofText?
    (h : IsSingle s k) :
    Shape.ofText? s = some (Entry.reference.shape k) := by
  obtain @⟨before, letters, digits, after, hbefore, hlabel, hafter⟩ := h
  have hsplit := Reference.splitLabel?_eq_some_iff.2 ⟨rfl, hlabel⟩
  have htrim : Text.trim (before ++ (letters ++ digits) ++ after) = letters ++ digits := by
    rw [Text.trim_append_of_isBlank hafter, Text.trim_isBlank_append hbefore]
    refine Text.trim_of_ends (fun c hc => ?_) (fun c hc => ?_)
    · exact Reference.not_isBlank_of_isLabelLetter (Reference.head_of_splitLabel? hsplit hc)
    · exact Text.not_isBlank_of_isDigit (Reference.last_of_splitLabel? hsplit hc)
  have hopen : '(' ∉ before ++ (letters ++ digits) ++ after := by
    simp only [List.mem_append, not_or]
    exact ⟨⟨not_mem_of_forall (by decide) hbefore,
      not_mem_of_forall (by decide) hlabel.isLabelLetter,
      not_mem_of_forall (by decide) hlabel.isDigit⟩, not_mem_of_forall (by decide) hafter⟩
  rw [Shape.ofText?, Shape.ofBody, callParts?_eq_none hopen, htrim, hsplit, shape_reference hlabel]
  rfl

end Calls

section Shapes

variable {e : Entry} {s k : List Char} {shape : Shape}

theorem getLast?_trim_ne_lineFeed
    (s : List Char) :
    (Text.trim s).getLast? ≠ some '\n' := by
  intro h
  have hblank := Text.not_isBlank_of_getLast?_trim h
  revert hblank
  decide

/-- A text that an entry takes has the shape that the entry makes of it. -/
theorem ofText?_of_takes
    (h : e.pattern.Takes s k) :
    Shape.ofText? s = some (e.shape k) := by
  cases e with
  | reference => exact (takes_reference_iff.1 h).ofText?
  | call f =>
      obtain ⟨hbefore, hname, hafter, harguments⟩ := takes_call_iff.1 h
      have hcall := ofCall?_eq_some_iff.2 ⟨f, hname, k, harguments, rfl⟩
      rw [Shape.ofText?, Shape.ofBody, callParts?_of_names hbefore hname hafter]
      simp [hcall, Entry.shape]

/-- A text whose shape belongs to an entry is taken by that entry. -/
theorem exists_takes_of_ofText?
    (h : Shape.ofText? s = some shape)
    (he : shape.owner? = some e) :
    ∃ kept, e.pattern.Takes s kept := by
  unfold Shape.ofText? at h
  split at h
  · next body =>
      obtain rfl := Option.some.inj h
      unfold Shape.ofBody at he
      split at he
      · next shape hshape =>
          obtain ⟨⟨name, arguments⟩, hparts, hcall⟩ := Option.bind_eq_some_iff.1 hshape
          obtain ⟨f, hname, kept, harguments, rfl⟩ := ofCall?_eq_some_iff.1 hcall
          obtain rfl : .call f = e := Option.some.inj ((owner?_shape (.call f) kept).symm.trans he)
          obtain ⟨front, rfl, rfl⟩ := exists_front_of_callParts? hparts
          obtain ⟨before, after, hbefore, hafter, hfront⟩ := Text.exists_append_trim front
          refine ⟨kept, takes_call_iff.2 ?_⟩
          rw [hfront]
          exact .intro hbefore hname hafter harguments
      · split at he
        · next letters digits hlabel =>
            obtain rfl := Option.some.inj he
            obtain ⟨before, after, hbefore, hafter, hbody⟩ := Text.exists_append_trim body
            obtain ⟨hsplit, hlabel⟩ := Reference.splitLabel?_eq_some_iff.1 hlabel
            refine ⟨letters ++ digits, takes_reference_iff.2 ?_⟩
            rw [hbody, hsplit]
            exact .intro hbefore hlabel hafter
        · cases he
  · cases h

/-- An entry finds the shape of a text if that shape belongs to it, and nothing otherwise. -/
theorem shape?_eq
    (hlast : s.getLast? ≠ some '\n') :
    e.shape? s = (Shape.ofText? s).filter fun shape => shape.owner? == some e := by
  -- Whatever the pattern keeps, the shape made of it is that of the text.
  have hfound : ∀ {kept}, e.pattern.match? s = some kept → Shape.ofText? s = some (e.shape kept) :=
    fun hmatch => ofText?_of_takes (Pattern.takes_of_match? hlast hmatch)
  apply Option.ext
  intro shape
  rw [Option.filter_eq_some_iff]
  constructor
  · intro h
    obtain ⟨kept, hmatch, rfl⟩ := Option.map_eq_some_iff.1 h
    exact ⟨hfound hmatch, by simp⟩
  · rintro ⟨hshape, he⟩
    obtain ⟨kept, htakes⟩ := exists_takes_of_ofText? hshape (beq_iff_eq.1 he)
    obtain ⟨kept', hmatch⟩ := Pattern.exists_match?_of_takes htakes
    rw [Entry.shape?, hmatch, Option.map_some, ← hfound hmatch, hshape]

/-- At most one entry matches a formula. -/
theorem Entry.eq_of_matches
    {e' : Entry} {formula : String}
    (h : e.Matches formula)
    (h' : e'.Matches formula) :
    e = e' := by
  have hentry : ∀ {e : Entry}, e.Matches formula →
      (Shape.ofText? (Text.trim formula.toList)).bind Shape.owner? = some e := by
    intro e h
    obtain ⟨kept, hkept⟩ := Option.isSome_iff_exists.1 h
    rw [ofText?_of_takes (Pattern.takes_of_match? (getLast?_trim_ne_lineFeed _) hkept)]
    exact owner?_shape e kept
  exact Option.some.inj ((hentry h).symm.trans (hentry h'))

theorem eq_arithmetic_of_owner?
    (h : (Shape.ofBody s).owner? = none) :
    Shape.ofBody s = .arithmetic s := by
  unfold Shape.ofBody at h ⊢
  split at h
  · next shape hshape =>
      obtain ⟨⟨name, arguments⟩, -, hcall⟩ := Option.bind_eq_some_iff.1 hshape
      obtain ⟨f, -, kept, -, rfl⟩ := ofCall?_eq_some_iff.1 hcall
      cases (owner?_shape (.call f) kept).symm.trans h
  · split at h
    · cases h
    · rfl

section Orders

variable {order : List Entry}

/-- What an order of the entries finds is the shape of the text. -/
theorem ofText?_of_findSome?
    (hlast : s.getLast? ≠ some '\n')
    (h : order.findSome? (·.shape? s) = some shape) :
    Shape.ofText? s = some shape := by
  obtain ⟨e, -, he⟩ := List.exists_of_findSome?_eq_some h
  rw [shape?_eq hlast, Option.filter_eq_some_iff] at he
  exact he.1

/-- The arguments of a call that an order of the entries finds are shorter than the text. -/
theorem length_of_ofTextBy?
    {arguments : List Char}
    (hlast : s.getLast? ≠ some '\n')
    (h : Shape.ofTextBy? order s = some (.condition arguments)
      ∨ Shape.ofTextBy? order s = some (.join arguments)) :
    arguments.length + 3 ≤ s.length := by
  unfold Shape.ofTextBy? at h
  split at h
  · next body =>
      cases hfind : order.findSome? (·.shape? ('=' :: body)) with
      | none => simp [hfind] at h
      | some shape =>
          have hshape := ofText?_of_findSome? hlast hfind
          simp only [hfind, Option.getD_some, Option.some.injEq] at h
          rcases h with rfl | rfl
          · exact length_of_condition hshape
          · exact length_of_join hshape
  · simp at h

/-- In whatever order the entries are tried, the first that takes a text finds its shape. -/
theorem ofTextBy?_eq_ofText?
    (horder : ∀ e, e ∈ order)
    (hlast : s.getLast? ≠ some '\n') :
    Shape.ofTextBy? order s = Shape.ofText? s := by
  unfold Shape.ofTextBy?
  split
  · next body =>
      have hbody : Shape.ofText? ('=' :: body) = some (Shape.ofBody body) := rfl
      cases hfind : order.findSome? (·.shape? ('=' :: body)) with
      | some shape => exact (ofText?_of_findSome? hlast hfind).symm
      | none =>
          -- The entry of a shape other than arithmetic would have found it.
          have harithmetic : Shape.ofBody body = .arithmetic body := by
            refine eq_arithmetic_of_owner? (Option.eq_none_iff_forall_not_mem.2 fun e he => ?_)
            have hnone := List.findSome?_eq_none_iff.1 hfind e (horder e)
            rw [shape?_eq hlast, hbody, Option.filter_eq_none_iff] at hnone
            exact hnone _ rfl (beq_iff_eq.2 he)
          rw [hbody, harithmetic]
          rfl
  · next hequals =>
      unfold Shape.ofText?
      split
      · exact (hequals _ rfl).elim
      · rfl

end Orders

end Shapes

section Congruence

theorem mapM_congr
    {m : Type → Type} [Monad m] [LawfulMonad m] {α β : Type} {f g : α → m β} {xs : List α}
    (h : ∀ x ∈ xs, f x = g x) :
    xs.mapM f = xs.mapM g := by
  induction xs with
  | nil => rfl
  | cons x xs ih =>
      rw [List.mapM_cons, List.mapM_cons, h x (by simp), ih fun y hy => h y (by simp [hy])]

variable {m : Type → Type} [Monad m] [MonadExcept Fault m]
variable {env : Environment m} {nested nested' : List Char → m (Option Scalar)}
  {arguments : List Char}

/-- A condition depends on the formulas that are no longer than its arguments. -/
theorem Environment.conditionOf_congr
    (h : ∀ part, part.length ≤ arguments.length → nested part = nested' part) :
    env.conditionOf nested arguments = env.conditionOf nested' arguments := by
  unfold Environment.conditionOf
  split
  · rfl
  · next condition whenTrue others hargs =>
      have hpart : ∀ part ∈ condition :: whenTrue :: others, nested part = nested' part :=
        fun part hmem => h part (length_le_of_mem_splitArguments hargs hmem)
      split
      · rfl
      split
      · rfl
      · next left comparison right hparts =>
          obtain ⟨hleft, hright⟩ := length_le_of_splitComparison hparts
          have hcondition := length_le_of_mem_splitArguments hargs (a := condition) (by simp)
          simp only [h left (by omega), h right (by omega), hpart whenTrue (by simp)]
          cases others with
          | nil => rfl
          | cons whenFalse others => simp only [hpart whenFalse (by simp)]
  · rfl

/-- A join depends on the formulas that are no longer than its arguments. -/
theorem Environment.joinOf_congr
    [LawfulMonad m]
    (h : ∀ part, part.length ≤ arguments.length → nested part = nested' part) :
    env.joinOf nested arguments = env.joinOf nested' arguments := by
  unfold Environment.joinOf
  split
  · rfl
  · rfl
  · next parts _ hargs =>
      have hpart : ∀ part ∈ parts, (env.part part fun _ => nested part)
          = env.part part fun _ => nested' part :=
        fun part hmem => by rw [h part (length_le_of_mem_splitArguments hargs hmem)]
      rw [mapM_congr hpart]

/-- The value of a formula depends on the formulas that are no longer than its arguments. -/
theorem Environment.valueOf_congr
    [LawfulMonad m] {shape : Option Shape}
    (h : ∀ arguments, shape = some (.condition arguments) ∨ shape = some (.join arguments) →
      ∀ part, part.length ≤ arguments.length → nested part = nested' part) :
    env.valueOf nested shape = env.valueOf nested' shape := by
  cases shape with
  | none => rfl
  | some shape =>
      cases shape with
      | condition arguments => exact Environment.conditionOf_congr (h arguments (.inl rfl))
      | join arguments => exact Environment.joinOf_congr (h arguments (.inr rfl))
      | _ => rfl

end Congruence

section Values

variable {m : Type → Type} [Monad m] [MonadExcept Fault m]

/-- The value of a formula text by an order of the entries.  The formulas inside it are
shorter, so none of them is left out (`evaluateBy_eq`). -/
def evaluateBy (order : List Entry) (env : Environment m) (s : List Char) : m (Option Scalar) :=
  let nested (part : List Char) : m (Option Scalar) :=
    if part.length + 1 < s.length then
      evaluateBy order env ('=' :: part)
    else
      throw (.syntaxFault .missingEquals)
  env.valueOf nested (Shape.ofTextBy? order (Text.trim s))
termination_by s.length

variable [LawfulMonad m] {order : List Entry}

/-- The formulas inside a formula are evaluated by the same order. -/
theorem evaluateBy_eq
    (order : List Entry) (env : Environment m) (s : List Char) :
    evaluateBy order env s
      = env.valueOf (fun part => evaluateBy order env ('=' :: part))
        (Shape.ofTextBy? order (Text.trim s)) := by
  rw [evaluateBy]
  refine Environment.valueOf_congr fun arguments hshape part hpart => ?_
  have hlength := length_of_ofTextBy? (getLast?_trim_ne_lineFeed s) hshape
  have htrim := length_trim_le s
  exact if_pos (by omega)

/-- By a complete order of the entries every formula has its value. -/
theorem evaluateBy_eq_evaluateText
    (horder : ∀ e, e ∈ order)
    (env : Environment m) (s : List Char) :
    evaluateBy order env s = evaluateText env s := by
  rw [evaluateBy_eq, evaluateText_eq, ofTextBy?_eq_ofText? horder (getLast?_trim_ne_lineFeed s)]
  refine Environment.valueOf_congr fun arguments hshape part hpart => ?_
  have hlength : arguments.length + 3 ≤ (Text.trim s).length :=
    hshape.elim length_of_condition length_of_join
  have htrim := length_trim_le s
  exact evaluateBy_eq_evaluateText horder env ('=' :: part)
termination_by s.length
decreasing_by
  simp only [List.length_cons]
  omega

end Values

namespace Source

set_option linter.unusedVariables false in
/-- The value of a cell, where formulas are evaluated in a given way and only the cells of
`idle` may be computed. -/
def readThrough (evaluate : Environment Evaluation → List Char → Evaluation (Option Scalar))
    (src : Source) (today : Date) (idle : List Reference) (r : Reference) :
    Evaluation (Option Scalar) :=
  match src.cell? r with
  | none => pure none
  | some cell =>
      match cell.source? with
      | none => pure cell.value?
      | some text => do
          match (← get).lookup r with
          | some value => return value
          | none =>
              if h : r ∈ idle then
                let env := src.environment today fun s =>
                  readThrough evaluate src today (idle.erase r) s
                let value ← evaluate env text.toList
                modify ((r, value) :: ·)
                return value
              else
                throw (reentrance r)
termination_by idle.length
decreasing_by
  rw [List.length_erase_of_mem h]
  have := List.length_pos_of_mem h
  omega

/-- The value of a formula by an order of the entries, where the cells that it refers to are
computed by the same order and only those of `idle` may be. -/
def dispatchBy (order : List Entry) (src : Source) (today : Date) (idle : List Reference)
    (formula : String) : Evaluation (Option Scalar) :=
  evaluateBy order (src.environment today (src.readThrough (evaluateBy order) today idle))
    formula.toList

variable {src : Source} {today : Date}

/-- Cells are read by evaluating their formulas. -/
theorem readThrough_evaluateText
    (idle : List Reference) (r : Reference) :
    src.readThrough evaluateText today idle r = src.read today idle r := by
  rw [readThrough, read]
  cases src.cell? r with
  | none => rfl
  | some cell =>
      dsimp only
      cases cell.source? with
      | none => rfl
      | some text =>
          refine bind_congr fun known => ?_
          cases known.lookup r with
          | some value => rfl
          | none =>
              by_cases hr : r ∈ idle
              · have hinner : (fun s => src.readThrough evaluateText today (idle.erase r) s)
                    = fun s => src.read today (idle.erase r) s :=
                  funext fun s => readThrough_evaluateText (idle.erase r) s
                simp only [hr, ↓reduceDIte, hinner]
              · simp only [hr, ↓reduceDIte]
termination_by idle.length
decreasing_by
  rw [List.length_erase_of_mem hr]
  have := List.length_pos_of_mem hr
  omega

/-- At most one entry matches a formula, and every order of the entries gives it the same
value, whichever cells are being computed and whatever was remembered. -/
theorem dispatchBy_of_perm
    (src : Source) (today : Date) (formula : String)
    {order : List Entry}
    (h : order.Perm Entry.table) :
    (∀ e e' : Entry, e.Matches formula → e'.Matches formula → e = e')
      ∧ ∀ idle, src.dispatchBy order today idle formula
        = evaluateText (src.environment today (src.read today idle)) formula.toList := by
  have horder : ∀ e, e ∈ order := fun e => h.mem_iff.2 e.mem_table
  refine ⟨fun e e' => Entry.eq_of_matches, fun idle => ?_⟩
  have hevaluate : evaluateBy order = evaluateText (m := Evaluation) :=
    funext₂ (evaluateBy_eq_evaluateText horder)
  have hread : src.readThrough (evaluateBy order) today idle = src.read today idle := by
    rw [hevaluate]
    exact funext (readThrough_evaluateText idle)
  rw [dispatchBy, hread, hevaluate]

/-- A sum in front of the two numbers that it adds. -/
def sumAndNumbers : Grid where
  minColumns := .int 3
  rows := [[some (.formula "=sum(B1:C1)" (by decide) none),
    some (.plain (.number (.int 5)) .number none), some (.plain (.number (.int 2)) .number none)]]
  history := .empty History.defaultLimit

/-- A condition on the sum, named with a letter that has no dot. -/
def dotlessCondition : String := "= ıf (A1>=7,Concatenate(\"sum \",max(A1:C1)),TODAY( ))"

/-- The entries in reverse order find the condition, the join and the functions of a range. -/
theorem dispatchBy_of_perm_reversed :
    Entry.table.reverse.Perm Entry.table
      ∧ (Entry.call .condition).Matches dotlessCondition
      ∧ (∀ e : Entry, e.Matches dotlessCondition → e = .call .condition)
      ∧ (∀ idle, sumAndNumbers.source.dispatchBy Entry.table.reverse ⟨2024, 3, 9, by decide⟩ idle
          dotlessCondition
        = evaluateText (sumAndNumbers.source.environment ⟨2024, 3, 9, by decide⟩
            (sumAndNumbers.source.read ⟨2024, 3, 9, by decide⟩ idle)) dotlessCondition.toList)
      ∧ ((sumAndNumbers.source.dispatchBy Entry.table.reverse ⟨2024, 3, 9, by decide⟩
          sumAndNumbers.source.formulas dotlessCondition).run.run []).1.toOption
        = some (some (.text "sum 7")) := by
  have hperm : Entry.table.reverse.Perm Entry.table := List.reverse_perm _
  have hmatches : (Entry.call .condition).Matches dotlessCondition := by decide +kernel
  obtain ⟨hunique, hvalue⟩ := dispatchBy_of_perm sumAndNumbers.source ⟨2024, 3, 9, by decide⟩
    dotlessCondition hperm
  refine ⟨hperm, hmatches, fun e he => hunique e _ he hmatches, hvalue, ?_⟩
  rw [hvalue]
  decide +kernel

end Source

end Formula
end Spreadsheet
