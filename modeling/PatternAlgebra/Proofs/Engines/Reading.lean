import Mathlib.Data.List.Forall2
import Mathlib.Data.List.Induction
import PatternAlgebra.Modes

/-!
# What a pattern means

To a search a pattern is what it matches from each position of a haystack: a
list of spans, the preferred ones first.  A search tries one position after
another and reports the first span of the first position that has one.

A reading is such a meaning together with what matters to the text after the
pattern: how many groups have been opened, which names they have, and which flags
are left in force.
Positions count characters; only what is reported to the outside is in bytes.
-/

namespace PatternAlgebra

/-- What is read in a text. -/
@[ext]
structure Reading where
  /-- The matches that begin at a position of a haystack, the preferred ones
  first: where each is reported to start, and where it stops. -/
  spans : List Char → Nat → List (Nat × Nat)
  /-- The number of capturing groups. -/
  groups : Nat
  /-- The names of those that have one. -/
  names : List String
  /-- The flags that are in force after the text. -/
  modes : Modes

namespace Reading

variable {reading other : Reading} {haystack : List Char} {modes : Modes}

/-! ## Searching -/

/-- The leftmost match. -/
def search (reading : Reading) (haystack : List Char) : Option (Nat × Nat) :=
  (List.range (haystack.length + 1)).findSome? fun position =>
    (reading.spans haystack position).head?

/-- The number of bytes of UTF-8 before a position. -/
def byteOffset (haystack : List Char) (position : Nat) : Nat :=
  (String.ofList (haystack.take position)).utf8ByteSize

/-- The range of a span in bytes of UTF-8. -/
def byteRange (haystack : List Char) (span : Nat × Nat) : Nat × Nat :=
  (byteOffset haystack span.1, byteOffset haystack span.2)

/-- The leftmost match, as a range of bytes. -/
def find (reading : Reading) (haystack : List Char) : Option (Nat × Nat) :=
  (reading.search haystack).map (byteRange haystack)

theorem find_eq_of_spans_eq (same : reading.spans = other.spans) :
    reading.find haystack = other.find haystack := by
  rw [find, find, search, search, same]

/-- A match goes from one end of the haystack to the other. -/
def MatchesWhole (reading : Reading) (haystack : List Char) : Prop :=
  ∃ span ∈ reading.spans haystack 0, span.2 = haystack.length

instance (reading : Reading) (haystack : List Char) : Decidable (reading.MatchesWhole haystack) :=
  inferInstanceAs (Decidable (∃ _ ∈ _, _))

/-- Every match is reported to start where it begins. -/
def KeepsStart (reading : Reading) : Prop :=
  ∀ haystack position, ∀ span ∈ reading.spans haystack position, span.1 = position

/-! ## Between the ends of the haystack -/

/-- The matches that begin at the start of the haystack. -/
def fromStart (reading : Reading) : Reading :=
  { reading with
    spans haystack position := if position = 0 then reading.spans haystack position else [] }

/-- The matches that stop at the end of the haystack. -/
def toEnd (reading : Reading) : Reading :=
  { reading with
    spans haystack position :=
      (reading.spans haystack position).filter fun span => span.2 = haystack.length }

/-- The matches between the two ends of the haystack, and flags to go on with. -/
def betweenEnds (reading : Reading) (modes : Modes) : Reading :=
  { reading with modes }.fromStart.toEnd

theorem spans_betweenEnds_zero : (reading.betweenEnds modes).spans haystack 0 =
    (reading.spans haystack 0).filter fun span => span.2 = haystack.length :=
  rfl

theorem spans_betweenEnds_of_ne {position : Nat} (later : position ≠ 0) :
    (reading.betweenEnds modes).spans haystack position = [] := by
  simp only [betweenEnds, fromStart, toEnd, if_neg later, List.filter_nil]

theorem search_betweenEnds : (reading.betweenEnds modes).search haystack =
    (reading.spans haystack 0).find? fun span => span.2 = haystack.length := by
  have later : (List.range' 1 haystack.length).findSome?
      (fun position => ((reading.betweenEnds modes).spans haystack position).head?) = none := by
    rw [List.findSome?_eq_none_iff]
    intro position inRange
    have notStart : position ≠ 0 := by
      have := List.mem_range'_1.mp inRange
      omega
    rw [spans_betweenEnds_of_ne notStart, List.head?_nil]
  rw [search, List.range_eq_range', List.range'_succ, List.findSome?_cons, later,
    spans_betweenEnds_zero, List.head?_filter]
  cases (reading.spans haystack 0).find? fun span => decide (span.2 = haystack.length) <;> rfl

theorem isSome_search_betweenEnds (modes : Modes) :
    ((reading.betweenEnds modes).search haystack).isSome = true ↔
      reading.MatchesWhole haystack := by
  rw [search_betweenEnds, List.find?_isSome]
  simp only [MatchesWhole, decide_eq_true_eq]

/-- Between the ends either the whole haystack is found or nothing. -/
theorem find_betweenEnds (keepsStart : reading.KeepsStart) :
    (reading.betweenEnds modes).find haystack =
      if reading.MatchesWhole haystack then some (0, (String.ofList haystack).utf8ByteSize)
      else none := by
  cases found : (reading.betweenEnds modes).search haystack with
  | none =>
      have nowhere : ¬ reading.MatchesWhole haystack := by
        rw [← isSome_search_betweenEnds modes, found]
        simp
      rw [find, found, if_neg nowhere, Option.map_none]
  | some span =>
      have whole : reading.MatchesWhole haystack := by
        rw [← isSome_search_betweenEnds modes, found]
        rfl
      rw [search_betweenEnds] at found
      have start : span.1 = 0 := keepsStart haystack 0 span (List.mem_of_find?_eq_some found)
      have stop : span.2 = haystack.length := of_decide_eq_true (List.find?_some found :)
      rw [find, search_betweenEnds, found, if_pos whole, Option.map_some, byteRange, byteOffset,
        byteOffset, start, stop, List.take_length, List.take_zero]
      rfl

/-! ## Alternatives -/

/-- One pattern or the other, the first one preferred. -/
def or (first second : Reading) : Reading where
  spans haystack position := first.spans haystack position ++ second.spans haystack position
  groups := first.groups + second.groups
  names := first.names ++ second.names
  modes := second.modes

theorem matchesWhole_or : (reading.or other).MatchesWhole haystack ↔
    reading.MatchesWhole haystack ∨ other.MatchesWhole haystack := by
  simp only [MatchesWhole, or, List.mem_append, or_and_right, exists_or]

/-! ## Words -/

/-- The pattern without text. -/
def nothing (modes : Modes) : Reading where
  spans _ position := [(position, position)]
  groups := 0
  names := []
  modes := modes

/-- A pattern and one more character after it. -/
def followedBy (reading : Reading) (test : Char → Bool) : Reading :=
  { reading with
    spans haystack position := (reading.spans haystack position).filterMap fun span =>
      if (haystack[span.2]?).any test then some (span.1, span.2 + 1) else none }

/-- Characters one after another, each by its test. -/
def spell (modes : Modes) (tests : List (Char → Bool)) : Reading :=
  tests.foldl followedBy (nothing modes)

theorem spell_concat (tests : List (Char → Bool)) (test : Char → Bool) :
    spell modes (tests ++ [test]) = (spell modes tests).followedBy test := by
  rw [spell, List.foldl_concat, spell]

/-- A character passes the test at its place. -/
abbrev Passes (tests : List (Char → Bool)) (text : List Char) : Prop :=
  List.Forall₂ (fun test c => test c = true) tests text

theorem passes_concat_iff {tests : List (Char → Bool)} {test : Char → Bool} {text : List Char} :
    Passes (tests ++ [test]) text ↔
      ∃ first c, text = first ++ [c] ∧ Passes tests first ∧ test c = true := by
  constructor
  · intro passes
    have backward := List.forall₂_reverse_iff.mpr passes
    rw [List.reverse_append, List.reverse_singleton, List.singleton_append,
      List.forall₂_cons_left_iff] at backward
    obtain ⟨c, rest, accepted, others, reversed⟩ := backward
    refine ⟨rest.reverse, c, ?_, ?_, accepted⟩
    · rw [← List.reverse_cons, ← reversed, List.reverse_reverse]
    · rwa [Passes, ← List.forall₂_reverse_iff, List.reverse_reverse]
  · rintro ⟨first, c, rfl, passes, accepted⟩
    exact List.rel_append passes (.cons accepted .nil)

/-- From the start of a haystack a word matches what passes its tests. -/
theorem mem_spans_spell {tests : List (Char → Bool)} {span : Nat × Nat} :
    span ∈ (spell modes tests).spans haystack 0 ↔
      span = (0, tests.length) ∧ ∃ front rest, haystack = front ++ rest ∧ Passes tests front := by
  induction tests using List.reverseRecOn generalizing span with
  | nil =>
      simp [spell, nothing]
  | append_singleton tests test inductionHypothesis =>
      rw [spell_concat]
      simp only [followedBy, List.mem_filterMap, inductionHypothesis, List.length_append,
        List.length_singleton]
      constructor
      · rintro ⟨_, ⟨rfl, front, rest, split, passes⟩, next⟩
        obtain ⟨accepted, reached⟩ := Option.ite_none_right_eq_some.mp next
        refine ⟨(Option.some.inj reached).symm, ?_⟩
        rw [split, passes.length_eq, List.getElem?_append_right (Nat.le_refl _), Nat.sub_self]
          at accepted
        cases rest with
        | nil => simp at accepted
        | cons c rest =>
            refine ⟨front ++ [c], rest, by simp [split], List.rel_append passes (.cons ?_ .nil)⟩
            simpa using accepted
      · rintro ⟨rfl, front, rest, split, passes⟩
        obtain ⟨first, c, rfl, passesFirst, accepted⟩ := passes_concat_iff.mp passes
        refine ⟨(0, tests.length), ⟨rfl, first, c :: rest, by simp [split], passesFirst⟩, ?_⟩
        have here : haystack[tests.length]? = some c := by
          rw [split, passesFirst.length_eq]
          simp
        simp [here, accepted]

/-- A word matches the whole of what passes its tests. -/
theorem matchesWhole_spell_iff {tests : List (Char → Bool)} :
    (spell modes tests).MatchesWhole haystack ↔ Passes tests haystack := by
  constructor
  · rintro ⟨span, found, whole⟩
    obtain ⟨rfl, front, rest, rfl, passes⟩ := mem_spans_spell.mp found
    have none : rest = [] := by
      rw [List.length_append, passes.length_eq] at whole
      exact List.length_eq_zero_iff.mp (by omega)
    rwa [none, List.append_nil]
  · intro passes
    exact ⟨_, mem_spans_spell.mpr ⟨rfl, haystack, [], by simp, passes⟩, passes.length_eq⟩

end Reading

end PatternAlgebra
