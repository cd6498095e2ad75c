import Spreadsheet.Proofs.Formula.Mentions
import Spreadsheet.Proofs.Formula.Total
import Spreadsheet.Proofs.Reference.Rectangle

/-!
# Two ways of reading cells

Evaluation is the same program whatever the way of reading cells.  Two ways
that are related on the cells that a formula mentions give related results, for
every relation that is kept by returning, failing and doing one thing after
another.

Result: evaluation keeps a simulation (`Simulation.evaluateText_rel`).
-/

namespace Spreadsheet

namespace Range

theorem mem_of_clipped?
    {range part : Range} {columns rows : Int} {r : Reference}
    (hpart : range.clipped? columns rows = some part)
    (hr : r ∈ part) :
    r ∈ range := by
  have hcells := range.toList_clipped? columns rows
  rw [hpart, Option.elim_some] at hcells
  rw [← mem_toList, hcells] at hr
  exact mem_toList.1 (List.mem_of_mem_filter hr)

theorem mem_of_clippedTo?
    {range part : Range} {columns : Number} {rows : Int} {r : Reference}
    (hpart : range.clippedTo? columns rows = .ok (some part))
    (hr : r ∈ part) :
    r ∈ range := by
  unfold Range.clippedTo? at hpart
  split at hpart
  · exact mem_of_clipped? (Except.ok.inj hpart) hr
  · cases hlast : columns.sub (.int 1) with
    | error fault => simp [hlast, bind, Except.bind] at hpart
    | ok last =>
        simp only [hlast, bind, Except.bind, pure, Except.pure] at hpart
        split at hpart
        · exact mem_of_clipped? (Except.ok.inj hpart) hr
        split at hpart
        · simp at hpart
        split at hpart
        · simp [throw, throwThe, MonadExceptOf.throw] at hpart
        · exact mem_of_clipped? (Except.ok.inj hpart) hr

theorem eq_of_mem_single
    {only r : Reference}
    (hr : r ∈ (⟨only, only⟩ : Range)) :
    only = r := by
  obtain ⟨hleft, hright, htop, hbottom⟩ := mem_def.1 hr
  simp only [minCol, maxCol, minRow, maxRow] at hleft hright htop hbottom
  have hcol : only.col = r.col := by omega
  have hrow : only.row = r.row := by omega
  calc only = ⟨only.col, only.row⟩ := rfl
    _ = ⟨r.col, r.row⟩ := by rw [hcol, hrow]
    _ = r := rfl

end Range

namespace Formula

section Cells

variable {m : Type → Type}

/-- The range that the argument of a function of a range names. -/
def rangeOf? (s : List Char) : Except Fault (Option Range) :=
  if (Text.trim s).contains ':' then
    Range.parse? (Text.trim s)
  else
    (Reference.parse? (Text.trim s)).map (Option.map fun r => ⟨r, r⟩)

theorem mentions_of_mem_rangeOf?
    {s : List Char} {range : Range} {r : Reference}
    (hrange : rangeOf? s = .ok (some range))
    (hr : r ∈ range) :
    Mentions s r := by
  refine Mentions.of_isInfix (isInfix_trim s) ?_
  unfold rangeOf? at hrange
  split at hrange
  · exact .range (List.infix_refl _) hrange hr
  · cases hlabel : Reference.parse? (Text.trim s) with
    | error fault => simp [hlabel, Except.map] at hrange
    | ok label =>
        cases label with
        | none => simp [hlabel, Except.map] at hrange
        | some only =>
            simp only [hlabel, Except.map, Option.map_some, Except.ok.injEq,
              Option.some.injEq] at hrange
            subst hrange
            obtain rfl := Range.eq_of_mem_single hr
            exact .label (List.infix_refl _) hlabel

theorem rangeCells_eq
    (env : Environment m) (s : List Char) :
    env.rangeCells s = (do
      match ← rangeOf? s with
      | none => return []
      | some range =>
          return (← range.clippedTo? env.columns env.rows).elim [] Range.toList) := by
  unfold Environment.rangeCells rangeOf?
  simp only
  split
  all_goals
    refine bind_congr fun range => ?_
    cases range with
    | none => rfl
    | some range =>
        refine bind_congr fun part => ?_
        cases part <;> rfl

theorem mentions_of_mem_rangeCells
    {env : Environment m} {s : List Char} {cells : List Reference} {r : Reference}
    (hcells : env.rangeCells s = .ok cells)
    (hr : r ∈ cells) :
    Mentions s r := by
  rw [rangeCells_eq] at hcells
  cases hrange : rangeOf? s with
  | error fault => simp [hrange, bind, Except.bind] at hcells
  | ok range =>
      rw [hrange] at hcells
      cases range with
      | none =>
          obtain rfl := Except.ok.inj hcells
          simp at hr
      | some range =>
          refine mentions_of_mem_rangeOf? hrange ?_
          cases hpart : range.clippedTo? env.columns env.rows with
          | error fault => simp [hpart, bind, Except.bind] at hcells
          | ok part =>
              simp only [hpart, bind, Except.bind, pure, Except.pure, Except.ok.injEq] at hcells
              subst hcells
              cases part with
              | none => simp at hr
              | some part => exact Range.mem_of_clippedTo? hpart (Range.mem_toList.1 hr)

theorem mentions_of_mem_present
    {env : Environment m} {s : List Char} {cells : List Reference} {r : Reference}
    (hcells : env.present s = .ok cells)
    (hr : r ∈ cells) :
    Mentions s r := by
  cases hinside : env.rangeCells s with
  | error fault => simp [Environment.present, hinside, Except.map] at hcells
  | ok inside =>
      simp only [Environment.present, hinside, Except.map, Except.ok.injEq] at hcells
      subst hcells
      exact mentions_of_mem_rangeCells hinside (List.mem_of_mem_filter hr)

end Cells

section Unfolding

variable {m : Type → Type} [Monad m] [MonadExcept Fault m]

namespace Environment

/-- The value of a condition with these arguments. -/
def conditionOf (env : Environment m) (nested : List Char → m (Option Scalar))
    (arguments : List Char) : m (Option Scalar) :=
  match splitArguments arguments with
  | .error fault => throw (.syntaxFault fault)
  | .ok (condition :: whenTrue :: others) =>
      if 1 < others.length then
        throw (.callFault .conditionArity)
      else
        match splitComparison condition with
        | .error fault => throw (.syntaxFault fault)
        | .ok (left, comparison, right) => do
            let x ← env.operand left fun _ => nested left
            let y ← env.operand right fun _ => nested right
            if comparison.compare x y then
              env.branch whenTrue fun _ => nested whenTrue
            else
              match others with
              | [] => return some (.bool false)
              | whenFalse :: _ => env.branch whenFalse fun _ => nested whenFalse
  | .ok _ => throw (.callFault .conditionArity)

/-- The value of a join of these arguments. -/
def joinOf (env : Environment m) (nested : List Char → m (Option Scalar))
    (arguments : List Char) : m (Option Scalar) :=
  match splitArguments arguments with
  | .error fault => throw (.syntaxFault fault)
  | .ok [] => throw (.callFault .joinArity)
  | .ok parts => do
      let texts ← parts.mapM fun part => env.part part fun _ => nested part
      return some (.text (String.join texts))

/-- The value of a formula of a shape, given that of the formulas inside it. -/
def valueOf (env : Environment m) (nested : List Char → m (Option Scalar)) :
    Option Shape → m (Option Scalar)
  | none => throw (.syntaxFault .missingEquals)
  | some .today => return some (.text env.today.format)
  | some (.aggregate f range) => do return some (.number (← env.aggregate f range))
  | some (.reference letters digits) => env.single letters digits
  | some (.arithmetic expression) => do return some (.number (← env.arithmetic expression))
  | some (.condition arguments) => env.conditionOf nested arguments
  | some (.join arguments) => env.joinOf nested arguments

end Environment

/-- Evaluation goes by the shape of the formula. -/
theorem evaluateText_eq
    [LawfulMonad m]
    (env : Environment m) (s : List Char) :
    evaluateText env s
      = env.valueOf (fun t => evaluateText env ('=' :: t)) (Shape.ofText? (Text.trim s)) := by
  rw [evaluateText]
  split
  · next h => rw [h]; rfl
  · next h => rw [h]; rfl
  · next h => rw [h]; rfl
  · next h => rw [h]; rfl
  · next h => rw [h]; rfl
  · next arguments h =>
      rw [h]
      simp only [Environment.valueOf, Environment.conditionOf]
      cases splitArguments arguments with
      | error fault => rfl
      | ok args =>
          rcases args with _ | ⟨condition, _ | ⟨whenTrue, others⟩⟩
          · rfl
          · rfl
          · refine if_congr Iff.rfl rfl ?_
            split
            · next hparts => rw [hparts]
            · next hparts =>
                rw [hparts]
                cases others <;> rfl
  · next arguments h =>
      rw [h]
      simp only [Environment.valueOf, Environment.joinOf]
      cases splitArguments arguments with
      | error fault => rfl
      | ok args =>
          cases args with
          | nil => rfl
          | cons part parts =>
              simp only
              rw [List.mapM_subtype (g := fun part => env.part part fun _ => evaluateText env ('=' :: part))
                (fun _ _ => rfl), List.unattach_attach]

end Unfolding

/-- A relation between computations of two kinds that is kept by returning, by
failing and by doing one thing after another. -/
structure Simulation (m n : Type → Type) [Monad m] [Monad n] [MonadExcept Fault m]
    [MonadExcept Fault n] where
  rel {α : Type} : m α → n α → Prop
  pure_rel {α : Type} (a : α) : rel (pure a) (pure a)
  throw_rel {α : Type} (fault : Fault) : rel (throw fault : m α) (throw fault)
  bind_rel {α β : Type} {x : m α} {y : n α} {f : α → m β} {g : α → n β} :
    rel x y → (∀ a, rel (f a) (g a)) → rel (x >>= f) (y >>= g)

section Simulations

variable {m n : Type → Type} [Monad m] [Monad n] [MonadExcept Fault m] [MonadExcept Fault n]

/-- Two environments on the same day see the same cells that are not empty in
every text that mentions only some cells, and read these in related ways. -/
structure Simulation.Agree (sim : Simulation m n) (env : Environment m) (env' : Environment n)
    (cells : Reference → Prop) : Prop where
  today : env.today = env'.today
  present {s : List Char} : MentionsOnly cells s → env.present s = env'.present s
  value {r : Reference} : cells r → sim.rel (env.value r) (env'.value r)
  readsEmpty : env.ReadsEmpty
  readsEmpty' : env'.ReadsEmpty

namespace Simulation

variable {sim : Simulation m n} {env : Environment m} {env' : Environment n}
  {cells : Reference → Prop} {s : List Char}

theorem ofExcept_rel
    (sim : Simulation m n) {α : Type} (x : Except Fault α) :
    sim.rel (ofExcept x : m α) (ofExcept x) := by
  cases x with
  | error fault => exact sim.throw_rel fault
  | ok a => exact sim.pure_rel a

theorem ofExcept_bind_rel
    (sim : Simulation m n) [LawfulFailure m] [LawfulFailure n]
    {α β : Type} {x : Except Fault α} {f : α → m β} {g : α → n β}
    (h : ∀ a, x = .ok a → sim.rel (f a) (g a)) :
    sim.rel (ofExcept x >>= f) (ofExcept x >>= g) := by
  cases x with
  | error fault =>
      rw [ofExcept, ofExcept, LawfulFailure.throw_bind, LawfulFailure.throw_bind]
      exact sim.throw_rel fault
  | ok a =>
      rw [ofExcept, ofExcept, pure_bind, pure_bind]
      exact h a rfl

theorem mapM_rel
    (sim : Simulation m n) [LawfulMonad m] [LawfulMonad n] {α β : Type} {f : α → m β} {g : α → n β} {xs : List α}
    (h : ∀ x ∈ xs, sim.rel (f x) (g x)) :
    sim.rel (xs.mapM f) (xs.mapM g) := by
  induction xs with
  | nil =>
      rw [List.mapM_nil, List.mapM_nil]
      exact sim.pure_rel []
  | cons x xs ih =>
      rw [List.mapM_cons, List.mapM_cons]
      refine sim.bind_rel (h x (by simp)) fun y => ?_
      refine sim.bind_rel (ih fun z hz => h z (by simp [hz])) fun ys => ?_
      exact sim.pure_rel (y :: ys)

theorem foldlM_rel
    (sim : Simulation m n) {α β : Type} {f : β → α → m β} {g : β → α → n β} {xs : List α}
    (h : ∀ x ∈ xs, ∀ acc, sim.rel (f acc x) (g acc x))
    (acc : β) :
    sim.rel (xs.foldlM f acc) (xs.foldlM g acc) := by
  induction xs generalizing acc with
  | nil => exact sim.pure_rel acc
  | cons x xs ih =>
      rw [List.foldlM_cons, List.foldlM_cons]
      refine sim.bind_rel (h x (by simp) acc) fun next => ?_
      exact ih (fun y hy => h y (by simp [hy])) next

theorem numeric_rel
    {r : Reference}
    (hr : sim.rel (env.value r) (env'.value r)) :
    sim.rel (env.numeric r) (env'.numeric r) :=
  sim.bind_rel hr fun value => sim.ofExcept_rel (coerceValue value)

theorem total_rel
    {cells : List Reference}
    (hcells : ∀ r ∈ cells, sim.rel (env.value r) (env'.value r)) :
    sim.rel (env.total cells) (env'.total cells) := by
  apply sim.foldlM_rel
  intro r hr sum
  exact sim.bind_rel (numeric_rel (hcells r hr)) fun x => sim.ofExcept_rel (sum.add x)

theorem aggregateOf_rel
    [LawfulMonad m] [LawfulMonad n]
    (f : Aggregate) {cells : List Reference}
    (hcells : ∀ r ∈ cells, sim.rel (env.value r) (env'.value r)) :
    sim.rel (env.aggregateOf f cells) (env'.aggregateOf f cells) := by
  have hnumbers : sim.rel (cells.mapM env.numeric) (cells.mapM env'.numeric) :=
    sim.mapM_rel fun r hr => numeric_rel (hcells r hr)
  cases f with
  | sum => exact total_rel hcells
  | count => exact sim.pure_rel _
  | average =>
      simp only [Environment.aggregateOf]
      split
      · exact sim.pure_rel _
      · exact sim.bind_rel (total_rel hcells) fun sum => sim.ofExcept_rel _
  | least =>
      refine sim.bind_rel hnumbers fun numbers => ?_
      cases numbers <;> exact sim.pure_rel _
  | greatest =>
      refine sim.bind_rel hnumbers fun numbers => ?_
      cases numbers <;> exact sim.pure_rel _

theorem aggregate_rel
    [LawfulFailure m] [LawfulFailure n]
    (h : sim.Agree env env' cells)
    (hs : MentionsOnly cells s)
    (f : Aggregate) :
    sim.rel (env.aggregate f s) (env'.aggregate f s) := by
  rw [Environment.aggregate_eq_aggregateOf h.readsEmpty,
    Environment.aggregate_eq_aggregateOf h.readsEmpty', ← h.present hs]
  exact sim.ofExcept_bind_rel fun present hpresent =>
    aggregateOf_rel f fun r hr => h.value (hs (mentions_of_mem_present hpresent hr))

theorem label_rel
    [LawfulFailure m] [LawfulFailure n]
    (h : sim.Agree env env' cells) {letters digits : List Char}
    (hs : MentionsOnly cells (letters ++ digits))
    (hlabel : Reference.splitLabel? (letters ++ digits) = some (letters, digits))
    {α : Type} {f : Option Reference → m α} {g : Option Reference → n α}
    (hnone : sim.rel (f none) (g none))
    (hsome : ∀ r, sim.rel (env.value r) (env'.value r) → sim.rel (f (some r)) (g (some r))) :
    sim.rel (ofExcept (Reference.ofParts? letters digits) >>= f)
      (ofExcept (Reference.ofParts? letters digits) >>= g) := by
  refine sim.ofExcept_bind_rel fun r hr => ?_
  cases r with
  | none => exact hnone
  | some r =>
      rw [← Reference.parse?_of_splitLabel? hlabel] at hr
      exact hsome r (h.value (hs (.label (List.infix_refl _) hr)))

theorem arithmetic_rel
    [LawfulFailure m] [LawfulFailure n]
    (h : sim.Agree env env' cells)
    (hs : MentionsOnly cells s) :
    sim.rel (env.arithmetic s) (env'.arithmetic s) := by
  have hpieces :
      sim.rel ((segments s).mapM env.substitute) ((segments s).mapM env'.substitute) := by
    apply sim.mapM_rel
    intro segment hsegment
    cases segment with
    | verbatim text => exact sim.pure_rel text
    | label letters digits =>
        obtain ⟨hpart, hlabel⟩ := isInfix_of_label_mem_segments hsegment
        refine label_rel h (hs.of_isInfix hpart) hlabel (sim.pure_rel _) fun r hr => ?_
        refine sim.bind_rel (numeric_rel hr) fun x => ?_
        exact sim.bind_rel (sim.ofExcept_rel _) fun text => sim.pure_rel _
  refine sim.bind_rel hpieces fun pieces => ?_
  refine sim.bind_rel (sim.ofExcept_rel _) fun e => ?_
  refine sim.bind_rel (sim.ofExcept_rel _) fun x => ?_
  split
  · exact sim.pure_rel x
  · exact sim.throw_rel _

theorem single_rel
    [LawfulFailure m] [LawfulFailure n]
    (h : sim.Agree env env' cells) {letters digits : List Char}
    (hs : MentionsOnly cells (letters ++ digits))
    (hlabel : Reference.splitLabel? (letters ++ digits) = some (letters, digits)) :
    sim.rel (env.single letters digits) (env'.single letters digits) := by
  refine label_rel h hs hlabel (sim.pure_rel _) fun r hr => ?_
  exact sim.bind_rel hr fun value => sim.pure_rel _

theorem parse?_of_argument_reference
    {s : List Char} {r : Reference}
    (h : Argument.ofText s = .ok (.reference r)) :
    Reference.parse? s = .ok (some r) := by
  unfold Argument.ofText at h
  split at h
  · simp [pure, Except.pure] at h
  · cases hnumber : Number.read? s with
    | error fault => simp [hnumber, bind, Except.bind] at h
    | ok number =>
        cases number with
        | some x => simp [hnumber, bind, Except.bind, pure, Except.pure] at h
        | none =>
            cases hr : Reference.parse? s with
            | error fault => simp [hnumber, hr, bind, Except.bind] at h
            | ok r =>
                simp only [hnumber, hr, bind, Except.bind, pure, Except.pure] at h
                cases r with
                | some r => simpa using h
                | none =>
                    by_cases hs : s.isEmpty <;> simp [hs] at h

/-- What is done with an argument goes by its meaning. -/
theorem argument_rel
    [LawfulFailure m] [LawfulFailure n]
    (h : sim.Agree env env' cells)
    (hs : MentionsOnly cells s)
    {α : Type} {f : Argument → m α} {g : Argument → n α}
    (hreference : ∀ r, sim.rel (env.value r) (env'.value r) →
      sim.rel (f (.reference r)) (g (.reference r)))
    (hother : ∀ argument, (∀ r, argument ≠ .reference r) → sim.rel (f argument) (g argument)) :
    sim.rel (ofExcept (Argument.ofText s) >>= f) (ofExcept (Argument.ofText s) >>= g) := by
  refine sim.ofExcept_bind_rel fun argument hargument => ?_
  cases argument with
  | reference r =>
      exact hreference r (h.value (hs (.label (List.infix_refl _) (parse?_of_argument_reference hargument))))
  | quoted text => exact hother _ (by simp)
  | number x => exact hother _ (by simp)
  | empty => exact hother _ (by simp)
  | formula => exact hother _ (by simp)

theorem operand_rel
    [LawfulFailure m] [LawfulFailure n]
    (h : sim.Agree env env' cells)
    (hs : MentionsOnly cells s)
    {nested : Unit → m (Option Scalar)} {nested' : Unit → n (Option Scalar)}
    (hnested : sim.rel (nested ()) (nested' ())) :
    sim.rel (env.operand s nested) (env'.operand s nested') := by
  refine argument_rel h hs (fun r hr => ?_) fun argument hargument => ?_
  · exact sim.bind_rel (numeric_rel hr) fun x => sim.pure_rel _
  · cases argument with
    | quoted text => exact sim.pure_rel _
    | number x => exact sim.pure_rel _
    | reference r => exact absurd rfl (hargument r)
    | empty => exact sim.throw_rel _
    | formula => exact hnested

theorem branch_rel
    [LawfulFailure m] [LawfulFailure n]
    (h : sim.Agree env env' cells)
    (hs : MentionsOnly cells s)
    {nested : Unit → m (Option Scalar)} {nested' : Unit → n (Option Scalar)}
    (hnested : sim.rel (nested ()) (nested' ())) :
    sim.rel (env.branch s nested) (env'.branch s nested') := by
  refine argument_rel h hs (fun r hr => hr) fun argument hargument => ?_
  cases argument with
  | quoted text => exact sim.pure_rel _
  | number x => exact sim.pure_rel _
  | reference r => exact absurd rfl (hargument r)
  | empty => exact sim.throw_rel _
  | formula => exact hnested

theorem part_rel
    [LawfulFailure m] [LawfulFailure n]
    (h : sim.Agree env env' cells)
    (hs : MentionsOnly cells s)
    {nested : Unit → m (Option Scalar)} {nested' : Unit → n (Option Scalar)}
    (hnested : sim.rel (nested ()) (nested' ())) :
    sim.rel (env.part s nested) (env'.part s nested') := by
  refine argument_rel h hs (fun r hr => ?_) fun argument hargument => ?_
  · exact sim.bind_rel hr fun value => sim.ofExcept_rel _
  · cases argument with
    | quoted text => exact sim.pure_rel _
    | number x => exact sim.pure_rel _
    | reference r => exact absurd rfl (hargument r)
    | empty => exact sim.throw_rel _
    | formula => exact sim.bind_rel hnested fun value => sim.ofExcept_rel _

theorem conditionOf_rel
    [LawfulFailure m] [LawfulFailure n]
    (h : sim.Agree env env' cells)
    (hs : MentionsOnly cells s)
    {nested : List Char → m (Option Scalar)} {nested' : List Char → n (Option Scalar)}
    (hnested : ∀ part, part <:+: s → sim.rel (nested part) (nested' part)) :
    sim.rel (env.conditionOf nested s) (env'.conditionOf nested' s) := by
  unfold Environment.conditionOf
  split
  · exact sim.throw_rel _
  · next condition whenTrue others hargs =>
      split
      · exact sim.throw_rel _
      have hmem : ∀ part ∈ condition :: whenTrue :: others, part <:+: s :=
        fun part hpart => isInfix_of_mem_splitArguments hargs hpart
      have hbranch : ∀ part ∈ condition :: whenTrue :: others,
          sim.rel (env.branch part fun _ => nested part)
            (env'.branch part fun _ => nested' part) := fun part hpart =>
        branch_rel h (hs.of_isInfix (hmem part hpart)) (hnested part (hmem part hpart))
      have hoperand : ∀ part, part <:+: condition →
          sim.rel (env.operand part fun _ => nested part)
            (env'.operand part fun _ => nested' part) := fun part hpart =>
        have hpart := hpart.trans (hmem condition (by simp))
        operand_rel h (hs.of_isInfix hpart) (hnested part hpart)
      split
      · exact sim.throw_rel _
      · next left comparison right hparts =>
          obtain ⟨hleft, hright⟩ := isInfix_of_splitComparison hparts
          refine sim.bind_rel (hoperand left hleft) fun x => ?_
          refine sim.bind_rel (hoperand right hright) fun y => ?_
          split
          · exact hbranch whenTrue (by simp)
          · cases others with
            | nil => exact sim.pure_rel _
            | cons whenFalse others => exact hbranch whenFalse (by simp)
  · exact sim.throw_rel _

theorem joinOf_rel
    [LawfulFailure m] [LawfulFailure n]
    (h : sim.Agree env env' cells)
    (hs : MentionsOnly cells s)
    {nested : List Char → m (Option Scalar)} {nested' : List Char → n (Option Scalar)}
    (hnested : ∀ part, part <:+: s → sim.rel (nested part) (nested' part)) :
    sim.rel (env.joinOf nested s) (env'.joinOf nested' s) := by
  unfold Environment.joinOf
  split
  · exact sim.throw_rel _
  · exact sim.throw_rel _
  · next parts _ hargs =>
      refine sim.bind_rel (sim.mapM_rel fun part hpart => ?_) fun texts => sim.pure_rel _
      have hpart := isInfix_of_mem_splitArguments hargs hpart
      exact part_rel h (hs.of_isInfix hpart) (hnested part hpart)

/-- Evaluation keeps a simulation between two ways of reading cells. -/
theorem evaluateText_rel
    [LawfulFailure m] [LawfulFailure n]
    (h : sim.Agree env env' cells) {s : List Char}
    (hs : MentionsOnly cells s) :
    sim.rel (evaluateText env s) (evaluateText env' s) := by
  rw [evaluateText_eq, evaluateText_eq]
  have htrim := hs.of_isInfix (isInfix_trim s)
  -- A formula inside the formula is shorter, with the equals sign that it gets.
  have hnested : ∀ {arguments part : List Char} {shape : Shape},
      Shape.ofText? (Text.trim s) = some shape → shape.arguments? = some arguments →
      arguments.length + 3 ≤ (Text.trim s).length → part <:+: arguments →
      sim.rel (evaluateText env ('=' :: part)) (evaluateText env' ('=' :: part)) := by
    intro arguments part shape hshape harguments hlength hpart
    have := length_trim_le s
    have := hpart.length_le
    have hmentions := htrim.of_isInfix (hpart.trans (isInfix_arguments hshape harguments))
    exact evaluateText_rel h fun r hr => hmentions hr.of_equals
  cases hshape : Shape.ofText? (Text.trim s) with
  | none => exact sim.throw_rel _
  | some shape =>
      cases shape with
      | today =>
          simp only [Environment.valueOf, h.today]
          exact sim.pure_rel _
      | aggregate f range =>
          have hrange := htrim.of_isInfix (isInfix_arguments hshape rfl)
          exact sim.bind_rel (aggregate_rel h hrange f) fun x => sim.pure_rel _
      | reference letters digits =>
          obtain ⟨hpart, hlabel⟩ := isInfix_reference hshape
          exact single_rel h (htrim.of_isInfix hpart) hlabel
      | arithmetic expression =>
          have hexpression := htrim.of_isInfix (isInfix_arithmetic hshape)
          exact sim.bind_rel (arithmetic_rel h hexpression) fun x => sim.pure_rel _
      | condition arguments =>
          refine conditionOf_rel h (htrim.of_isInfix (isInfix_arguments hshape rfl)) ?_
          intro part hpart
          exact hnested hshape rfl (length_of_condition hshape) hpart
      | join arguments =>
          refine joinOf_rel h (htrim.of_isInfix (isInfix_arguments hshape rfl)) ?_
          intro part hpart
          exact hnested hshape rfl (length_of_join hshape) hpart
termination_by s.length
decreasing_by
  simp only [List.length_cons]
  omega

end Simulation
end Simulations
end Formula
end Spreadsheet
