import Mathlib.Data.List.Basic

/-!
# Patterns of texts

A pattern is made of characters of a class, runs of them, parts behind each other and
choices between parts.  What it keeps of a text is what its groups take.

A text is matched by trying the longest run and the first part of a choice before the
others, and going back to these where what follows does not fit.

Results: the ways that are tried are those that the meaning of the pattern allows
(`mem_ways_iff`), so a pattern that takes a text matches it (`exists_match?_of_takes`), and
what is matched is taken whole, unless a line feed ends it (`takes_of_match?`).
-/

namespace Spreadsheet
namespace Text

/-- Patterns of texts. -/
inductive Pattern where
  | nothing
  | one (accepts : Char → Bool)
  | many (accepts : Char → Bool)
  | andThen (first second : Pattern)
  | orElse (first second : Pattern)
  | group (inner : Pattern)

namespace Pattern

/-- A part taken from the front of a text, what is kept of it, and the text behind it. -/
structure Way where
  taken : List Char
  kept : List Char
  rest : List Char
deriving DecidableEq, Repr

/-- One part and then another. -/
def Way.append (first second : Way) : Way :=
  ⟨first.taken ++ second.taken, first.kept ++ second.kept, second.rest⟩

/-- The runs at the front of a text, the longest first. -/
def runs (accepts : Char → Bool) : List Char → List Way
  | [] => [⟨[], [], []⟩]
  | c :: s =>
      if accepts c then
        (runs accepts s).map (Way.append ⟨[c], [], s⟩) ++ [⟨[], [], c :: s⟩]
      else
        [⟨[], [], c :: s⟩]

/-- The ways to take a part from the front of a text, the preferred first. -/
def ways : Pattern → List Char → List Way
  | nothing, s => [⟨[], [], s⟩]
  | one _, [] => []
  | one accepts, c :: s => if accepts c then [⟨[c], [], s⟩] else []
  | many accepts, s => runs accepts s
  | andThen first second, s =>
      (first.ways s).flatMap fun w => (second.ways w.rest).map w.append
  | orElse first second, s => first.ways s ++ second.ways s
  | group inner, s => (inner.ways s).map fun w => ⟨w.taken, w.taken, w.rest⟩

/-- What is kept of a text that is taken whole, or up to a line feed that ends it. -/
def match? (p : Pattern) (s : List Char) : Option (List Char) :=
  ((p.ways s).find? fun w => w.rest == [] || w.rest == ['\n']).map Way.kept

/-- The pattern takes a text and keeps a part of it. -/
def Takes : Pattern → List Char → List Char → Prop
  | nothing, t, k => t = [] ∧ k = []
  | one accepts, t, k => (∃ c, accepts c = true ∧ t = [c]) ∧ k = []
  | many accepts, t, k => (∀ c ∈ t, accepts c = true) ∧ k = []
  | andThen first second, t, k =>
      ∃ t₁ k₁ t₂ k₂, first.Takes t₁ k₁ ∧ second.Takes t₂ k₂ ∧ t = t₁ ++ t₂ ∧ k = k₁ ++ k₂
  | orElse first second, t, k => first.Takes t k ∨ second.Takes t k
  | group inner, t, k => (∃ inside, inner.Takes t inside) ∧ k = t

/-- One character. -/
def exactly (c : Char) : Pattern := .one (· == c)

/-- A run of at least one character. -/
def many1 (accepts : Char → Bool) : Pattern := (one accepts).andThen (many accepts)

section Meaning

variable {t k t' k' : List Char} {accepts : Char → Bool} {first second : Pattern}

theorem Takes.andThen
    (h : first.Takes t k)
    (h' : second.Takes t' k') :
    (first.andThen second).Takes (t ++ t') (k ++ k') :=
  ⟨t, k, t', k', h, h', rfl, rfl⟩

theorem Takes.group
    (h : first.Takes t k) :
    (Pattern.group first).Takes t t :=
  ⟨⟨k, h⟩, rfl⟩

theorem takes_exactly
    (c : Char) :
    (exactly c).Takes [c] [] :=
  ⟨⟨c, beq_self_eq_true c, rfl⟩, rfl⟩

theorem takes_exactly_iff
    {c : Char} :
    (exactly c).Takes t k ↔ t = [c] ∧ k = [] := by
  simp [exactly, Takes]

theorem takes_many1_iff :
    (many1 accepts).Takes t k ↔ t ≠ [] ∧ (∀ c ∈ t, accepts c = true) ∧ k = [] := by
  constructor
  · rintro ⟨_, _, rest, _, ⟨⟨c, hc, rfl⟩, rfl⟩, ⟨hrest, rfl⟩, rfl, rfl⟩
    exact ⟨by simp, by simpa [hc] using hrest, rfl⟩
  · rintro ⟨hne, hall, rfl⟩
    obtain ⟨c, rest, rfl⟩ := List.exists_cons_of_ne_nil hne
    obtain ⟨hc, hrest⟩ := List.forall_mem_cons.1 hall
    exact ⟨[c], [], rest, [], ⟨⟨c, hc, rfl⟩, rfl⟩, ⟨hrest, rfl⟩, rfl, rfl⟩

end Meaning

section Search

variable {p : Pattern} {accepts : Char → Bool} {s k : List Char} {w : Way}

/-- The runs of a text are its beginnings of accepted characters. -/
theorem mem_runs_iff :
    w ∈ runs accepts s
      ↔ s = w.taken ++ w.rest ∧ (∀ c ∈ w.taken, accepts c = true) ∧ w.kept = [] := by
  obtain ⟨taken, kept, rest⟩ := w
  induction s generalizing taken with
  | nil =>
      simp only [runs, List.mem_singleton, Way.mk.injEq, List.nil_eq, List.append_eq_nil_iff]
      constructor
      · rintro ⟨rfl, rfl, rfl⟩
        simp
      · rintro ⟨⟨rfl, rfl⟩, -, rfl⟩
        simp
  | cons c s ih =>
      unfold runs
      constructor
      · intro hw
        split at hw
        · next hc =>
            rcases List.mem_append.1 hw with hw | hw
            · obtain ⟨⟨taken', kept', rest'⟩, hv, heq⟩ := List.mem_map.1 hw
              simp only [Way.append, Way.mk.injEq] at heq
              obtain ⟨rfl, rfl, rfl⟩ := heq
              obtain ⟨hs, hall, hkept⟩ := (ih taken').1 hv
              exact ⟨by simp [hs], by simpa [hc] using hall, hkept⟩
            · cases List.mem_singleton.1 hw
              simp
        · cases List.mem_singleton.1 hw
          simp
      · rintro ⟨hs, hall, hkept⟩
        simp only at hs hall hkept
        subst hkept
        cases taken with
        | nil =>
            obtain rfl : c :: s = rest := hs
            split <;> simp
        | cons d taken =>
            obtain ⟨rfl, hrest⟩ := List.cons.inj hs
            obtain ⟨hc, hall⟩ := List.forall_mem_cons.1 hall
            rw [if_pos hc]
            refine List.mem_append_left _ (List.mem_map.2 ⟨⟨taken, [], rest⟩, ?_, rfl⟩)
            exact (ih taken).2 ⟨hrest, hall, rfl⟩

/-- What is tried is what the pattern takes. -/
theorem mem_ways_iff :
    w ∈ p.ways s ↔ s = w.taken ++ w.rest ∧ p.Takes w.taken w.kept := by
  induction p generalizing s w with
  | nothing =>
      obtain ⟨taken, kept, rest⟩ := w
      simp only [ways, List.mem_singleton, Way.mk.injEq, Takes]
      constructor
      · rintro ⟨rfl, rfl, rfl⟩
        simp
      · rintro ⟨rfl, rfl, rfl⟩
        simp
  | one accepts =>
      obtain ⟨taken, kept, rest⟩ := w
      constructor
      · intro hw
        cases s with
        | nil => cases hw
        | cons c s =>
            rw [ways] at hw
            split at hw
            · next hc =>
                cases List.mem_singleton.1 hw
                exact ⟨rfl, ⟨c, hc, rfl⟩, rfl⟩
            · cases hw
      · rintro ⟨rfl, ⟨c, hc, ht⟩, hk⟩
        simp only at ht hk
        subst ht hk
        simp [ways, hc]
  | many accepts => exact mem_runs_iff
  | andThen first second ihfirst ihsecond =>
      simp only [ways, List.mem_flatMap, List.mem_map, ihfirst, ihsecond, Takes]
      constructor
      · rintro ⟨v, ⟨hs, hfirst⟩, u, ⟨hrest, hsecond⟩, rfl⟩
        refine ⟨?_, v.taken, v.kept, u.taken, u.kept, hfirst, hsecond, rfl, rfl⟩
        rw [hs, hrest]
        simp [Way.append]
      · rintro ⟨hs, t₁, k₁, t₂, k₂, hfirst, hsecond, ht, hk⟩
        obtain ⟨taken, kept, rest⟩ := w
        simp only at hs ht hk
        subst hs ht hk
        exact ⟨⟨t₁, k₁, t₂ ++ rest⟩, ⟨by simp, hfirst⟩, ⟨t₂, k₂, rest⟩, ⟨rfl, hsecond⟩, rfl⟩
  | orElse first second ihfirst ihsecond =>
      simp only [ways, List.mem_append, ihfirst, ihsecond, Takes]
      rw [and_or_left]
  | group inner ih =>
      simp only [ways, List.mem_map, ih, Takes]
      constructor
      · rintro ⟨v, ⟨hs, hinner⟩, rfl⟩
        exact ⟨hs, ⟨v.kept, hinner⟩, rfl⟩
      · rintro ⟨hs, ⟨inside, hinner⟩, hkept⟩
        obtain ⟨taken, kept, rest⟩ := w
        simp only at hs hinner hkept
        subst hkept
        exact ⟨⟨kept, inside, rest⟩, ⟨hs, hinner⟩, rfl⟩

/-- A pattern that takes a text matches it. -/
theorem exists_match?_of_takes
    (h : p.Takes s k) :
    ∃ kept, p.match? s = some kept := by
  have hway : (⟨s, k, []⟩ : Way) ∈ p.ways s := mem_ways_iff.2 ⟨by simp, h⟩
  have hsome : ((p.ways s).find? fun w => w.rest == [] || w.rest == ['\n']).isSome = true :=
    List.find?_isSome.2 ⟨_, hway, by simp⟩
  obtain ⟨w, hw⟩ := Option.isSome_iff_exists.1 hsome
  exact ⟨w.kept, by rw [match?, hw]; rfl⟩

/-- A text that no line feed ends is matched as a whole. -/
theorem takes_of_match?
    (hlast : s.getLast? ≠ some '\n')
    (h : p.match? s = some k) :
    p.Takes s k := by
  obtain ⟨w, hfind, rfl⟩ := Option.map_eq_some_iff.1 h
  obtain ⟨hs, htakes⟩ := mem_ways_iff.1 (List.mem_of_find?_eq_some hfind)
  have hend := List.find?_some hfind
  simp only [Bool.or_eq_true, beq_iff_eq] at hend
  rcases hend with hrest | hrest
  · rw [hrest, List.append_nil] at hs
    rwa [hs]
  · rw [hs, hrest] at hlast
    simp at hlast

end Search

end Pattern
end Text
end Spreadsheet
