import PatternAlgebra.Proofs.Nesting.Nested
import PatternAlgebra.Proofs.Pattern.Grouping

/-!
# Shapes read off a grammar

A text has a shape other than the last one exactly when it is a single
character or escape, one class of the grammar, or one pair of parentheses
around a text of the grammar of nested texts; the first characters of such a
group tell its sort.  The classification needs no scan to be stated: it
depends on the text and on the two grammars alone.
-/

namespace PatternAlgebra

open Text

/-- Unless a mark holds a closing parenthesis, it is read inside the group. -/
theorem Text.isPrefix_parenthesized_iff {mark body : List Char} (noClosing : ')' ∉ mark) :
    '(' :: mark <+: parenthesized body ↔ mark <+: body := by
  rw [parenthesized, List.prefix_cons_inj, List.prefix_concat_iff]
  constructor
  · rintro (rfl | inBody)
    · simp at noClosing
    · exact inBody
  · exact .inr

namespace Shape

/-- The whole text is one pair of parentheses around a nested text. -/
def IsGroup (text : List Char) : Prop :=
  ∃ body, Nested body ∧ text = parenthesized body

/-- What the texts of each shape but the last look like. -/
inductive Describes : Shape → List Char → Prop where
  | character (c : Char) : Describes .singleChar [c]
  | escape (c : Char) : Describes .singleChar ['\\', c]
  | charClass {text : List Char} : IsClass text → Describes .charClass text
  | named {mark : Char} {text : List Char} : IsGroup text → ['(', '?', '<', mark] <+: text →
      5 ≤ text.length → mark ≠ '=' → mark ≠ '!' → Describes .namedCaptureGroup text
  | plain {text : List Char} : IsGroup text → ['(', '?', ':'] <+: text →
      Describes .nonCaptureGroup text
  | look (side : Lookaround) {text : List Char} : IsGroup text → side.opening.toList <+: text →
      Describes .lookaround text
  | capture {text : List Char} : IsGroup text → ¬ ['(', '?'] <+: text →
      Describes .captureGroup text

theorem isGroup_parenthesized {body : List Char} (balanced : Balanced body) :
    IsGroup (parenthesized body) :=
  ⟨body, balanced.nested, rfl⟩

theorem closing_not_mem_mark (side : Lookaround) : ')' ∉ (Opening.look side).mark := by
  intro member
  cases (Opening.isValid_look side).noDelimiter _ member

theorem Describes.covers {shape : Shape} {text : List Char} (describes : shape.Describes text) :
    shape.Covers text := by
  cases describes with
  | character c => exact .character c
  | escape c => exact .escape c
  | charClass grammar => exact .charClass grammar
  | named isGroup starts long notEquals notBang =>
      obtain ⟨body, nested, rfl⟩ := isGroup
      rw [parenthesized, List.prefix_cons_inj, List.prefix_concat_iff] at starts
      rcases starts with short | ⟨rest, rfl⟩
      · -- The character after the angle bracket would be the closing parenthesis.
        rw [parenthesized, ← short] at long
        exact absurd long (by simp)
      · have balanced := nested.balanced
        rw [List.cons_append, balanced_cons_iff rfl, List.cons_append, balanced_cons_iff rfl]
          at balanced
        exact .named notEquals notBang balanced
  | plain isGroup starts =>
      obtain ⟨body, nested, rfl⟩ := isGroup
      rw [isPrefix_parenthesized_iff (by decide)] at starts
      obtain ⟨rest, rfl⟩ := starts
      exact .plain (Opening.isValid_plain.balanced_iff.mp nested.balanced)
  | look side isGroup starts =>
      obtain ⟨body, nested, rfl⟩ := isGroup
      rw [side.toList_opening, isPrefix_parenthesized_iff (closing_not_mem_mark side)] at starts
      obtain ⟨rest, rfl⟩ := starts
      exact .look side ((Opening.isValid_look side).balanced_iff.mp nested.balanced)
  | capture isGroup bare =>
      obtain ⟨body, nested, rfl⟩ := isGroup
      have noQuestion : body.head? ≠ some '?' := by
        intro question
        obtain ⟨rest, rfl⟩ := List.head?_eq_some_iff.mp question
        exact bare ((isPrefix_parenthesized_iff (by decide)).mpr ⟨rest, rfl⟩)
      exact .capture nested.balanced noQuestion

theorem Covers.describes {shape : Shape} {text : List Char} (covers : shape.Covers text) :
    shape.Describes text := by
  cases covers with
  | character c => exact .character c
  | escape c => exact .escape c
  | charClass grammar => exact .charClass grammar
  | @capture body balanced noQuestion =>
      apply Describes.capture (isGroup_parenthesized balanced)
      rw [isPrefix_parenthesized_iff (by decide)]
      rintro ⟨rest, rfl⟩
      exact noQuestion rfl
  | @plain body balanced =>
      apply Describes.plain
      · exact isGroup_parenthesized (Opening.isValid_plain.balanced_iff.mpr balanced)
      · exact (isPrefix_parenthesized_iff (by decide)).mpr ⟨body, rfl⟩
  | @look side body balanced =>
      apply Describes.look side
      · exact isGroup_parenthesized ((Opening.isValid_look side).balanced_iff.mpr balanced)
      · rw [side.toList_opening]
        exact (isPrefix_parenthesized_iff (closing_not_mem_mark side)).mpr ⟨body, rfl⟩
  | @named c rest notEquals notBang balanced =>
      have whole : Balanced ('?' :: '<' :: c :: rest) :=
        (balanced_cons_iff rfl).mpr ((balanced_cons_iff rfl).mpr balanced)
      apply Describes.named (isGroup_parenthesized whole) ?_ ?_ notEquals notBang
      · exact ⟨rest ++ [')'], rfl⟩
      · simp only [parenthesized, List.length_cons, List.length_append]
        omega

/-- A text has a shape exactly when it looks like the texts of that shape, and
the last shape exactly when it looks like those of no other. -/
theorem of_eq_iff_describes (text : String) (shape : Shape) :
    of text = shape ↔
      shape.Describes text.toList ∨
        shape = .other ∧ ∀ sort : Shape, ¬ sort.Describes text.toList := by
  constructor
  · rintro rfl
    rcases covers_ofChars text.toList with other | covers
    · right
      constructor
      · exact other
      · intro sort describes
        have found : ofChars text.toList = sort := ofChars_of_covers describes.covers
        rw [other] at found
        subst found
        cases describes
    · exact .inl covers.describes
  · rintro (describes | ⟨rfl, noSort⟩)
    · exact ofChars_of_covers describes.covers
    · rcases covers_ofChars text.toList with other | covers
      · exact other
      · exact absurd covers.describes (noSort _)

end Shape

end PatternAlgebra
