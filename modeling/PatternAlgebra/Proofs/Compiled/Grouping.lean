import PatternAlgebra.Proofs.Compiled.Sample
import PatternAlgebra.Proofs.Pattern.Regrouping

/-!
# Grouped patterns

A pattern that is put into a group of its own, or into another one, is compiled
by the same engine as before and finds its matches where it did, if the text of
the pattern keeps to itself.  A group that captures raises the numbers of all
groups in it, so nothing inside may refer to a group by its number, unless the
engine is the one that has no references.
-/

namespace PatternAlgebra

open Reader Text

variable {reader : Reader} {readers : Dialect → Reader} {dialect : Dialect}
  {body text : List Char} {captures : Bool}

/-! ## Texts around a core -/

/-- The text is the body or a group around all of it, which captures or does not. -/
inductive IsAround (body : List Char) : (captures : Bool) → List Char → Prop where
  | itself : IsAround body false body
  | plain : IsAround body false (plainGroup body)
  | capture (noMark : body.head? ≠ some '?') : IsAround body true (group body)

namespace IsAround

/-- What is around a body is read if the body is, and matches as the body does. -/
theorem spans_eq (around : IsAround body captures text) (groups : reader.ReadsGroups)
    (contained : reader.IsSelfContained .plain body) (uncommented : ¬ BeginsWithComment body)
    (ignores : captures = true → reader.IgnoresCount body) :
    (reader.read .plain 0 text).map Reading.spans =
      (reader.read .plain 0 body).map Reading.spans := by
  cases around with
  | itself => rfl
  | plain => exact contained.spans_plainGroup rfl groups
  | capture noMark => rw [contained.spans_group rfl noMark uncommented groups, ignores rfl .plain 0]

/-- No body that is read begins with a question mark. -/
theorem noMark (around : IsAround body captures text) (groups : reader.ReadsGroups)
    (contained : reader.IsSelfContained .plain body) {whole : Reading}
    (read : reader.read .plain 0 text = some whole) : body.head? ≠ some '?' := by
  have unread (mark : body.head? = some '?') : reader.read .plain 0 body = none := by
    obtain ⟨rest, rfl⟩ := List.head?_eq_some_iff.mp mark
    exact groups.mark
  cases around with
  | itself =>
      intro mark
      cases (unread mark).symm.trans read
  | plain =>
      intro mark
      have spans : (reader.read .plain 0 (plainGroup body)).map Reading.spans = _ :=
        contained.spans_plainGroup rfl groups
      rw [read, unread mark] at spans
      cases spans
  | capture noMark => exact noMark

end IsAround

/-- A text is around its core. -/
theorem isAround_core (text : List Char) :
    IsAround (core text) (decide (Shape.ofChars text = .captureGroup)) text := by
  have hasCore := hasCore_core text
  generalize core text = body at hasCore
  cases hasCore with
  | capture balanced noQuestion =>
      rw [Shape.ofChars_of_covers (.capture balanced noQuestion)]
      exact .capture noQuestion
  | plain balanced =>
      rw [Shape.ofChars_of_covers (.plain balanced)]
      exact .plain
  | itself bare =>
      have other : Shape.ofChars text ≠ .captureGroup := fun shape =>
        bare .captureGroup (by decide) ((Shape.ofChars_eq_iff (by decide)).mp shape)
      rw [decide_eq_false other]
      exact .itself

namespace Pattern

variable {pattern grouped : Pattern} {grouping : Regrouping}

/-- A grouping puts the core into a group, unless it leaves the text as it is. -/
theorem isAround_of_apply (made : grouping.apply pattern = .ok grouped)
    (noMark : (core pattern.chars).head? ≠ some '?') :
    grouped.chars = pattern.chars ∨
      IsAround (core pattern.chars) (decide (grouping = .capture)) grouped.chars := by
  cases grouping with
  | capture =>
      rw [(toCaptureGroup_eq_ok made).1]
      exact .inr (.capture noMark)
  | plain =>
      rw [(toNonCaptureGroup_eq_ok made).1]
      by_cases bare : IsBare pattern.chars
      · exact .inl (atom_of_isBare bare)
      · rw [atom_of_not_isBare bare]
        exact .inr .plain

/-- A group that captures is left as it is when it is to capture. -/
theorem chars_eq_of_capture (made : Regrouping.capture.apply pattern = .ok grouped)
    (shape : pattern.shape = .captureGroup) : grouped.chars = pattern.chars := by
  rw [Regrouping.apply, toCaptureGroup, shape] at made
  cases made
  rfl

/-- Where a grouping changes the text and a group captures before or after it, the
core has another number of groups before it, which it ignores if it refers to none
by its number. -/
theorem ignoresCount_core (counts : CountsGroups readers)
    (made : grouping.apply pattern = .ok grouped) (changed : grouped.chars ≠ pattern.chars)
    (captures : pattern.shape = .captureGroup ∨ grouping = .capture)
    (unnumbered : dialect = .standard ∨ (pattern.shape = .captureGroup ↔ grouping = .capture) ∨
      refersByNumber (core pattern.chars) = false) :
    (readers dialect).IgnoresCount (core pattern.chars) := by
  rcases unnumbered with standard | kept | unnumbered
  · exact counts.ignoresCount (.inl standard)
  · obtain rfl : grouping = .capture := captures.elim kept.mp id
    exact absurd (chars_eq_of_capture made (kept.mpr rfl)) changed
  · exact counts.ignoresCount (.inr unnumbered)

theorem reading?_default (dialect : Dialect) (text : List Char) :
    reading? readers {} dialect text = (readers dialect).read .plain 0 text := by
  cases dialect <;> rfl

end Pattern

end PatternAlgebra
