import Mathlib.Data.List.Forall2
import Spreadsheet.Proofs.Formula.Nesting

/-!
# Splitting undoes joining

A text splits if and only if it is balanced.  Its arguments are then the pieces between
the commas outside quotes and parentheses, without the blanks around them, and arguments
joined by commas split into the same arguments.

Results: the scan of a joined text takes its pieces one after the other
(`scanFrom_intercalate`), every balanced text is joined from such pieces
(`exists_pieces`), and what splitting returns of every text (`splitArguments_inverts_join`).
-/

namespace Spreadsheet
namespace Formula

namespace Nesting

/-- The scan of arguments from a place with this nesting on. -/
def scanFrom (n : Nesting) (position : Nat) (current s : List Char) :
    Except SyntaxFault (List (List Char)) :=
  scanArguments position n.depth.toNat n.inQuotes current s

end Nesting

/-- A text with blanks around it. -/
def IsPadded (padded s : List Char) : Prop :=
  ∃ before after, (∀ c ∈ before, Text.isBlank c = true)
    ∧ (∀ c ∈ after, Text.isBlank c = true) ∧ padded = before ++ s ++ after

section Lemmas

open Nesting

variable {n : Nesting} {c : Char} {s : List Char}

/-- A quote or a parenthesis left open is a fault. -/
theorem scanFrom_nil_of_ne
    (hdepth : 0 ≤ n.depth)
    (hn : n ≠ outside)
    (position : Nat)
    (current : List Char) :
    ∃ fault, n.scanFrom position current [] = .error fault := by
  obtain ⟨depth, inQuotes⟩ := n
  cases inQuotes with
  | true => exact ⟨.unterminatedText, rfl⟩
  | false =>
      have hopen : depth.toNat ≠ 0 := by
        intro hzero
        have hdepth : 0 ≤ depth := hdepth
        exact hn (by simp only [outside, mk.injEq, and_true]; omega)
      exact ⟨.missingClosing, by simp only [scanFrom, scanArguments, if_pos hopen]; rfl⟩

/-- A character that neither divides nor closes too much is read. -/
theorem scanFrom_cons
    (hdepth : 0 ≤ n.depth)
    (hafter : 0 ≤ (n.after c).depth)
    (hcomma : c = ',' → n ≠ outside)
    (position : Nat)
    (current s : List Char) :
    n.scanFrom position current (c :: s)
      = (n.after c).scanFrom (position + 1) (c :: current) s := by
  obtain ⟨depth, inQuotes⟩ := n
  by_cases hquote : c = '"'
  · simp [scanFrom, scanArguments, after, hquote]
  by_cases hin : inQuotes = true
  · simp [scanFrom, scanArguments, after, hquote, hin]
  obtain rfl : inQuotes = false := by simpa using hin
  by_cases hopen : c = '('
  · have hsucc : (depth + 1).toNat = depth.toNat + 1 := Int.toNat_add_nat hdepth 1
    simp [scanFrom, scanArguments, after, hopen, hsucc]
  by_cases hclose : c = ')'
  · have hpos : 0 ≤ depth - 1 := by simpa [after, hclose] using hafter
    have hne : ¬ depth ≤ 0 := by omega
    have hpred : (depth - 1).toNat = depth.toNat - 1 := by omega
    simp [scanFrom, scanArguments, after, hclose, hne, hpred]
  · have hnot : ¬ (c = ',' ∧ depth.toNat = 0) := by
      rintro ⟨rfl, hzero⟩
      have hdepth : 0 ≤ depth := hdepth
      exact hcomma rfl (by simp only [outside, mk.injEq, and_true]; omega)
    simp only [scanFrom, scanArguments, after, if_neg hquote, if_neg hopen, if_neg hclose,
      if_neg hnot, Bool.false_eq_true, reduceIte]

/-- A comma outside quotes and parentheses ends the piece before it. -/
theorem scanFrom_comma
    (position : Nat)
    (current s : List Char) :
    outside.scanFrom position current (',' :: s)
      = (outside.scanFrom (position + 1) [] s).map (Text.trim current.reverse :: ·) := by
  simp only [scanFrom, outside, scanArguments, Int.toNat_zero, reduceIte, Bool.false_eq_true,
    true_and, Char.reduceEq]
  cases scanArguments (position + 1) 0 false [] s <;> rfl

/-- A parenthesis that closes none is a fault. -/
theorem scanFrom_closing
    (hdepth : 0 ≤ n.depth)
    (hafter : (n.after c).depth < 0)
    (position : Nat)
    (current s : List Char) :
    n.scanFrom position current (c :: s) = .error (.unexpectedClosing position) := by
  obtain ⟨depth, inQuotes⟩ := n
  have hdepth : 0 ≤ depth := hdepth
  have hkept : ¬ depth < 0 := by omega
  by_cases hquote : c = '"'
  · exact absurd hafter (by simpa [after, hquote] using hdepth)
  by_cases hin : inQuotes = true
  · exact absurd hafter (by simpa [after, hquote, hin] using hdepth)
  by_cases hopen : c = '('
  · have hmore : ¬ depth + 1 < 0 := by omega
    exact absurd hafter (by simpa [after, hin, hopen] using hmore)
  by_cases hclose : c = ')'
  · have hafter : depth - 1 < 0 := by simpa [after, hin, hclose] using hafter
    obtain rfl : depth = 0 := by omega
    simp [scanFrom, scanArguments, hin, hclose]
  · exact absurd hafter (by simpa [after, hquote, hin, hopen, hclose] using hdepth)

/-- A piece that no comma divides is read up to its end. -/
theorem scanFrom_append
    {piece : List Char}
    (hcloses : n.Closes piece)
    (hhides : n.HidesCommas piece)
    (position : Nat)
    (current s : List Char) :
    n.scanFrom position current (piece ++ s)
      = outside.scanFrom (position + piece.length) (piece.reverse ++ current) s := by
  induction piece generalizing n position current with
  | nil =>
      obtain rfl := closes_nil.1 hcloses
      rfl
  | cons c piece ih =>
      obtain ⟨hdepth, hcloses⟩ := closes_cons.1 hcloses
      obtain ⟨hcomma, hhides⟩ := hidesCommas_cons.1 hhides
      rw [List.cons_append, scanFrom_cons hdepth hcloses.depth_nonneg hcomma,
        ih hcloses hhides, List.length_cons, List.reverse_cons, List.append_assoc,
        Nat.add_right_comm, Nat.add_assoc]
      rfl

/-- Pieces joined by commas are scanned one after the other. -/
theorem scanFrom_intercalate
    {first : List Char} {rest : List (List Char)}
    (hcloses : n.Closes first)
    (hhides : n.HidesCommas first)
    (hrest : ∀ piece ∈ rest, IsBalanced piece ∧ outside.HidesCommas piece)
    (position : Nat)
    (current : List Char) :
    n.scanFrom position current ([','].intercalate (first :: rest))
      = .ok (Text.trim (current.reverse ++ first) :: rest.map Text.trim) := by
  induction rest generalizing n first position current with
  | nil =>
      rw [List.intercalate_singleton, ← List.append_nil first,
        scanFrom_append hcloses hhides]
      simp [scanFrom, scanArguments, outside]
  | cons second rest ih =>
      obtain ⟨hsecond, hrest⟩ := List.forall_mem_cons.1 hrest
      rw [List.intercalate_cons_cons, List.append_assoc, scanFrom_append hcloses hhides,
        List.singleton_append, scanFrom_comma, ih hsecond.1 hsecond.2 hrest]
      simp [Except.map]

/-- What closes all that is open is joined from pieces that no comma divides. -/
theorem exists_pieces
    (h : n.Closes s) :
    ∃ first rest, s = [','].intercalate (first :: rest) ∧ n.Closes first
      ∧ n.HidesCommas first ∧ ∀ piece ∈ rest, IsBalanced piece ∧ outside.HidesCommas piece := by
  induction s generalizing n with
  | nil => exact ⟨[], [], rfl, h, hidesCommas_nil, by simp⟩
  | cons c s ih =>
      obtain ⟨hdepth, hs⟩ := closes_cons.1 h
      obtain ⟨first, rest, rfl, hfirst, hhides, hrest⟩ := ih hs
      by_cases hcut : c = ',' ∧ n = outside
      · obtain ⟨rfl, rfl⟩ := hcut
        refine ⟨[], first :: rest, by rw [List.intercalate_cons_cons]; rfl,
          closes_nil.2 rfl, hidesCommas_nil, ?_⟩
        exact List.forall_mem_cons.2 ⟨⟨hfirst, hhides⟩, hrest⟩
      · refine ⟨c :: first, rest, ?_, closes_cons.2 ⟨hdepth, hfirst⟩,
          hidesCommas_cons.2 ⟨fun hc hn => hcut ⟨hc, hn⟩, hhides⟩, hrest⟩
        cases rest with
        | nil => simp
        | cons second rest => simp only [List.intercalate_cons_cons, List.cons_append]

/-- Only what closes all that is open has arguments. -/
theorem closes_of_scanFrom
    {position : Nat} {current : List Char} {args : List (List Char)}
    (hdepth : 0 ≤ n.depth)
    (h : n.scanFrom position current s = .ok args) :
    n.Closes s := by
  induction s generalizing n position current args with
  | nil =>
      by_contra hopen
      obtain ⟨fault, hfault⟩ :=
        scanFrom_nil_of_ne hdepth (fun hn => hopen (closes_nil.2 hn)) position current
      rw [hfault] at h
      cases h
  | cons c s ih =>
      refine closes_cons.2 ⟨hdepth, ?_⟩
      by_cases hafter : 0 ≤ (n.after c).depth
      · by_cases hcut : c = ',' ∧ n = outside
        · obtain ⟨rfl, rfl⟩ := hcut
          rw [scanFrom_comma] at h
          cases hrest : outside.scanFrom (position + 1) [] s with
          | error fault =>
              rw [hrest] at h
              cases h
          | ok rest => exact ih hafter hrest
        · rw [scanFrom_cons hdepth hafter fun hc hn => hcut ⟨hc, hn⟩] at h
          exact ih hafter h
      · rw [scanFrom_closing hdepth (by omega)] at h
        cases h

theorem splitArguments_eq
    (s : List Char) :
    splitArguments s
      = (outside.scanFrom 0 [] s).map fun args => if args = [[]] then [] else args := by
  have hscan : scanArguments 0 0 false [] s = outside.scanFrom 0 [] s := rfl
  rw [splitArguments, hscan]
  cases outside.scanFrom 0 [] s with
  | error fault => rfl
  | ok args =>
      simp only [Except.map]
      split <;> simp_all

/-- A text has arguments if and only if it is balanced. -/
theorem exists_splitArguments_iff :
    (∃ args, splitArguments s = .ok args) ↔ IsBalanced s := by
  constructor
  · rintro ⟨args, h⟩
    rw [splitArguments_eq] at h
    cases hscan : outside.scanFrom 0 [] s with
    | error fault =>
        rw [hscan] at h
        cases h
    | ok pieces => exact closes_of_scanFrom (Int.le_refl 0) hscan
  · intro h
    obtain ⟨first, rest, rfl, hfirst, hhides, hrest⟩ := exists_pieces h
    rw [splitArguments_eq, scanFrom_intercalate hfirst hhides hrest]
    exact ⟨_, rfl⟩

/-- Splitting takes the blanks from the pieces of a text. -/
theorem splitArguments_intercalate
    {pieces : List (List Char)}
    (hne : pieces ≠ [])
    (hpieces : ∀ piece ∈ pieces, IsBalanced piece ∧ outside.HidesCommas piece) :
    splitArguments ([','].intercalate pieces)
      = .ok (if pieces.map Text.trim = [[]] then [] else pieces.map Text.trim) := by
  cases pieces with
  | nil => exact absurd rfl hne
  | cons first rest =>
      obtain ⟨hfirst, hrest⟩ := List.forall_mem_cons.1 hpieces
      rw [splitArguments_eq, scanFrom_intercalate hfirst.1 hfirst.2 hrest]
      rfl

/-- Arguments joined by commas split into the same arguments. -/
theorem splitArguments_join
    {args : List (List Char)}
    (hne : args ≠ [])
    (hblank : args ≠ [[]])
    (hargs : ∀ a ∈ args, IsArgument a) :
    splitArguments ([','].intercalate args) = .ok args := by
  have htrim : args.map Text.trim = args :=
    (List.map_congr_left fun a ha => (hargs a ha).trimmed).trans (List.map_id args)
  rw [splitArguments_intercalate hne fun a ha => ⟨(hargs a ha).balanced, (hargs a ha).whole⟩,
    htrim, if_neg hblank]

/-- A balanced text is joined from its arguments, with blanks around them. -/
theorem splitArguments_of_isBalanced
    (h : IsBalanced s)
    (hvisible : ¬ ∀ c ∈ s, Text.isBlank c = true) :
    ∃ args padded, splitArguments s = .ok args ∧ (∀ a ∈ args, IsArgument a)
      ∧ List.Forall₂ IsPadded padded args ∧ s = [','].intercalate padded := by
  obtain ⟨first, rest, rfl, hfirst, hhides, hrest⟩ := exists_pieces h
  have hpieces : ∀ piece ∈ first :: rest, IsBalanced piece ∧ outside.HidesCommas piece :=
    List.forall_mem_cons.2 ⟨⟨hfirst, hhides⟩, hrest⟩
  have hnot : (first :: rest).map Text.trim ≠ [[]] := by
    intro hnil
    obtain ⟨htrim, hsingle⟩ := List.cons.inj hnil
    obtain rfl := List.map_eq_nil_iff.1 hsingle
    exact hvisible (by rwa [List.intercalate_singleton, ← Text.trim_eq_nil_iff])
  refine ⟨(first :: rest).map Text.trim, first :: rest, ?_, ?_, ?_, rfl⟩
  · rw [splitArguments_intercalate (List.cons_ne_nil _ _) hpieces, if_neg hnot]
  · rw [List.forall_mem_map]
    exact fun piece hpiece => isArgument_trim (hpieces piece hpiece).1 (hpieces piece hpiece).2
  · exact List.forall₂_map_right_iff.2
      (List.forall₂_same.2 fun piece _ => Text.exists_append_trim piece)

/-- A blank text has no arguments. -/
theorem splitArguments_of_isBlank
    (h : ∀ c ∈ s, Text.isBlank c = true) :
    splitArguments s = .ok [] := by
  have hbalanced : IsBalanced s := by
    constructor
    case nonneg =>
      intro front hfront
      rw [behind_of_isBlank fun c hc => h c (hfront.subset hc)]
      decide
    case closed => exact behind_of_isBlank h
  have hhides : outside.HidesCommas s := by
    rintro front rest rfl
    exact absurd (h ',' (by simp)) (by decide)
  have hsplit := splitArguments_intercalate (List.cons_ne_nil s [])
    (List.forall_mem_singleton.2 ⟨hbalanced, hhides⟩)
  rwa [List.intercalate_singleton, List.map_singleton, Text.trim_eq_nil_iff.2 h,
    if_pos rfl] at hsplit

/-- What a text is split into are arguments. -/
theorem isArgument_of_mem
    {args : List (List Char)} {a : List Char}
    (h : splitArguments s = .ok args)
    (ha : a ∈ args) :
    IsArgument a := by
  by_cases hblank : ∀ c ∈ s, Text.isBlank c = true
  · rw [splitArguments_of_isBlank hblank] at h
    obtain rfl := Except.ok.inj h
    cases ha
  · obtain ⟨found, -, hfound, harguments, -⟩ :=
      splitArguments_of_isBalanced (exists_splitArguments_iff.1 ⟨args, h⟩) hblank
    obtain rfl := Except.ok.inj (hfound.symm.trans h)
    exact harguments a ha

/-- Splitting undoes joining: arguments joined by commas split into the same arguments, a
text has arguments if and only if it is balanced, and a balanced text that is not blank is
joined from its arguments and blanks around them. -/
theorem splitArguments_inverts_join :
    (∀ args : List (List Char), args ≠ [] → args ≠ [[]] → (∀ a ∈ args, IsArgument a) →
        splitArguments ([','].intercalate args) = .ok args)
      ∧ (∀ s, (∃ fault, splitArguments s = .error fault) ↔ ¬ IsBalanced s)
      ∧ (∀ s, IsBalanced s → (¬ ∀ c ∈ s, Text.isBlank c = true) →
        ∃ args padded, splitArguments s = .ok args ∧ (∀ a ∈ args, IsArgument a)
          ∧ List.Forall₂ IsPadded padded args ∧ s = [','].intercalate padded)
      ∧ ∀ s, (∀ c ∈ s, Text.isBlank c = true) → splitArguments s = .ok [] := by
  refine ⟨fun args hne hblank hargs => splitArguments_join hne hblank hargs, fun s => ?_,
    fun s h hvisible => splitArguments_of_isBalanced h hvisible,
    fun s h => splitArguments_of_isBlank h⟩
  rw [← exists_splitArguments_iff]
  cases splitArguments s <;> simp

/-- Commas inside quotes and parentheses do not divide, and an empty argument counts. -/
theorem splitArguments_inverts_join_nested :
    splitArguments "\"a,\"\"(\",IF(A1>1,2,3),".toList
      = .ok ["\"a,\"\"(\"".toList, "IF(A1>1,2,3)".toList, []] :=
  splitArguments_inverts_join.1 ["\"a,\"\"(\"".toList, "IF(A1>1,2,3)".toList, []]
    (by decide) (by decide) (by decide)

end Lemmas

end Formula
end Spreadsheet
